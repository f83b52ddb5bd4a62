import RtlLiterals.Proofs.Text.Offsets

/-!
# RtlLiterals.Proofs.Text.Requests -- a cursor that is asked for one offset after the other

Both ways of finding literals convert bytes into characters with one cursor, and ask it for the
start and the stop of each literal as they come. Nothing obliges these requests to be in order. A
request is served if it is a boundary of the text or lies past its end; the cursor then stands at
the furthest byte requested so far, or at the end of the text if that comes first, and the answer is
the number of characters before it.

## §A How it goes

`StandsAt source b c` is the invariant: the cursor `c` is where requests up to byte `b` have taken
it. One request keeps it (`StandsAt.advance`), and a run of requests is an induction over them
(`StandsAt.countBefore_answer`).

⚠ BOUNDARY: nothing is said of a request that points into a character.
-/

namespace RtlLiterals

namespace Text

/-! ## §B Characters before a byte -/

/-- **`t.CountBefore b n`** -- the first `b` bytes of the text are those of its first `n`
characters. -/
def CountBefore (t : Text) (b n : Nat) : Prop :=
  ∃ front rest, t = front ++ rest ∧ front.byteLength = b ∧ front.length = n

/-- **`t.IsBoundary b`** -- byte `b` is the first one of a character, or the end of the text. -/
def IsBoundary (t : Text) (b : Nat) : Prop := ∃ n, t.CountBefore b n

theorem countBefore_iff {t : Text} {b n : Nat} :
    t.CountBefore b n ↔ n ≤ t.length ∧ t.byteOffset n = b := by
  constructor
  · rintro ⟨front, rest, rfl, rfl, rfl⟩
    exact ⟨by simp, byteOffset_append_length front rest⟩
  · rintro ⟨hn, rfl⟩
    exact ⟨t.take n, t.drop n, (List.take_append_drop n t).symm, rfl, List.length_take_of_le hn⟩

theorem isBoundary_iff {t : Text} {b : Nat} :
    t.IsBoundary b ↔ (t.dropBytes? b).isSome = true := by
  constructor
  · rintro ⟨n, h⟩
    obtain ⟨-, rfl⟩ := countBefore_iff.1 h
    rw [dropBytes?_byteOffset]
    rfl
  · intro h
    obtain ⟨rest, hrest⟩ := Option.isSome_iff_exists.1 h
    obtain ⟨n, hn, hoffset⟩ := exists_byteOffset_of_dropBytes? hrest
    exact ⟨n, countBefore_iff.2 ⟨hn, hoffset⟩⟩

instance (t : Text) (b : Nat) : Decidable (t.IsBoundary b) := decidable_of_iff _ isBoundary_iff.symm

/-- **`t.Serves b`** -- byte `b` may be requested: it is a boundary or past the end. -/
def Serves (t : Text) (b : Nat) : Prop := t.IsBoundary b ∨ t.byteLength < b

instance (t : Text) (b : Nat) : Decidable (t.Serves b) :=
  inferInstanceAs (Decidable (t.IsBoundary b ∨ t.byteLength < b))

end Text

namespace OffsetCursor

/-! ## §C One request -/

/-- Sent past the end, the cursor has read the rest of the text. -/
theorem seek_of_byteLength_le {rest : Text} {target bytes : Nat} (chars : Nat)
    (h : bytes + rest.byteLength ≤ target) :
    seek target rest bytes chars = ⟨[], bytes + rest.byteLength, chars + rest.length⟩ := by
  induction rest generalizing bytes chars with
  | nil => rfl
  | cons c rest ih =>
    have hpos := c.utf8Size_pos
    rw [Text.byteLength_cons] at h
    rw [seek, if_pos (by omega), ih (chars + 1) (by omega), Text.byteLength_cons, List.length_cons,
      Nat.add_assoc bytes, Nat.add_assoc chars, Nat.add_comm 1]

theorem onChar_length (source : Text) :
    onChar source source.length = ⟨[], source.byteLength, source.length⟩ := by
  rw [onChar, List.drop_length, Text.byteOffset_length]

/-- A target past the end is one at the end. -/
theorem advance_of_byteLength_lt {source : Text} {n target : Nat} (hn : n ≤ source.length)
    (h : source.byteLength < target) :
    (onChar source n).advance target = onChar source source.length := by
  have hbytes : source.byteOffset n + Text.byteLength (source.drop n) = source.byteLength := by
    have hadd := Text.byteLength_append (source.take n) (source.drop n)
    rw [List.take_append_drop] at hadd
    exact hadd.symm
  have hrest : source.byteOffset n + Text.byteLength (source.drop n) ≤ target := by omega
  rw [advance, onChar, seek_of_byteLength_le n hrest, hbytes, onChar_length, List.length_drop,
    Nat.add_sub_cancel' hn]

/-- A request that is served leads to a character or to the end of the text, unless the cursor is
already behind that. -/
theorem exists_advance_of_serves {source : Text} {target : Nat} (h : source.Serves target) :
    ∃ m, source.CountBefore (min target source.byteLength) m ∧
      ∀ n ≤ source.length, (onChar source n).advance target = onChar source (max n m) := by
  rcases h with ⟨m, hcount⟩ | hpast
  · obtain ⟨hm, rfl⟩ := Text.countBefore_iff.1 hcount
    rw [Nat.min_eq_left (Text.byteOffset_le_byteLength hm)]
    exact ⟨m, hcount, fun n _ => advance_byteOffset hm⟩
  · rw [Nat.min_eq_right (Nat.le_of_lt hpast)]
    refine ⟨source.length,
      Text.countBefore_iff.2 ⟨Nat.le_refl _, Text.byteOffset_length source⟩, ?_⟩
    intro n hn
    rw [Nat.max_eq_right hn, advance_of_byteLength_lt hn hpast]

/-- **`c.StandsAt source b`** -- the cursor stands at byte `b` of the text, or at the end if that
comes first. -/
def StandsAt (source : Text) (b : Nat) (c : OffsetCursor) : Prop :=
  ∃ n, source.CountBefore (min b source.byteLength) n ∧ c = onChar source n

theorem standsAt_start (source : Text) : (start source).StandsAt source 0 :=
  ⟨0, Text.countBefore_iff.2 ⟨Nat.zero_le _, by simp⟩, start_eq_onChar source⟩

theorem StandsAt.countBefore {source : Text} {b : Nat} {c : OffsetCursor} (h : c.StandsAt source b) :
    source.CountBefore (min b source.byteLength) c.chars := by
  obtain ⟨n, hn, rfl⟩ := h
  exact hn

/-- **One request.** The cursor goes on to the byte requested, and stays if that lies behind. -/
theorem StandsAt.advance {source : Text} {b target : Nat} {c : OffsetCursor}
    (hc : c.StandsAt source b) (htarget : source.Serves target) :
    (c.advance target).StandsAt source (max b target) := by
  obtain ⟨n, hn, rfl⟩ := hc
  obtain ⟨m, hm, hmove⟩ := exists_advance_of_serves htarget
  obtain ⟨hnlen, hnoffset⟩ := Text.countBefore_iff.1 hn
  obtain ⟨hmlen, hmoffset⟩ := Text.countBefore_iff.1 hm
  refine ⟨max n m, Text.countBefore_iff.2 ⟨Nat.max_le.2 ⟨hnlen, hmlen⟩, ?_⟩, hmove n hnlen⟩
  -- The further of two characters is the one at the further byte.
  rw [Text.byteOffset_max, hnoffset, hmoffset]
  omega

/-! ## §D A run of requests -/

/-- The answers to requests made one after the other. -/
def answers (c : OffsetCursor) : List Nat → List Nat
  | [] => []
  | b :: requests => (c.advance b).chars :: (c.advance b).answers requests

theorem length_answers (c : OffsetCursor) (requests : List Nat) :
    (c.answers requests).length = requests.length := by
  induction requests generalizing c with
  | nil => rfl
  | cons b requests ih => rw [answers, List.length_cons, ih, List.length_cons]

/-- **A run.** From a cursor that requests up to byte `b` have taken to its place, each answer
counts the characters before the greatest of `b` and the requests up to its own. -/
theorem StandsAt.countBefore_answer {source : Text} {requests : List Nat} {b k n : Nat}
    {c : OffsetCursor} (hc : c.StandsAt source b) (hrequests : ∀ r ∈ requests, source.Serves r)
    (h : (c.answers requests)[k]? = some n) :
    source.CountBefore (min ((requests.take (k + 1)).foldl max b) source.byteLength) n := by
  induction requests generalizing b c k with
  | nil => simp [answers] at h
  | cons r requests ih =>
    -- The first request leaves the cursor where requests up to `max b r` would have taken it.
    have hnext := hc.advance (hrequests r List.mem_cons_self)
    rw [List.take_succ_cons, List.foldl_cons]
    cases k with
    | zero =>
      rw [answers, List.getElem?_cons_zero, Option.some.injEq] at h
      rw [← h]
      exact hnext.countBefore
    | succ k =>
      rw [answers, List.getElem?_cons_succ] at h
      exact ih hnext (fun s hs => hrequests s (List.mem_cons_of_mem r hs)) h

/-- The greatest of some numbers that never decrease is the last one. -/
theorem max?_take_of_pairwise {l : List Nat} {k r : Nat} (hsorted : l.Pairwise (· ≤ ·))
    (hr : l[k]? = some r) : (l.take (k + 1)).max? = some r := by
  have htake : l.take (k + 1) = l.take k ++ [r] := by
    rw [List.take_add_one, hr]
    rfl
  have hpairs := hsorted.sublist (List.take_sublist (k + 1) l)
  rw [htake] at hpairs ⊢
  refine List.max?_eq_some_iff.2 ⟨by simp, ?_⟩
  intro s hs
  rcases List.mem_append.1 hs with hs | hs
  · exact (List.pairwise_append.1 hpairs).2.2 s hs r List.mem_cons_self
  · exact Nat.le_of_eq (List.mem_singleton.1 hs)

/-- **Requests in any order.** Where every request is a boundary of the text or past its end, each
is answered, and the `k`-th answer is the number of characters in the first `m` bytes, or in all of
them if there are fewer, where `m` is the greatest request up to it. So where the requests never
decrease, each answer is the offset in characters of its own request. -/
theorem answers_countBefore (source : Text) (requests : List Nat)
    (hrequests : ∀ r ∈ requests, source.IsBoundary r ∨ source.byteLength < r) :
    ((start source).answers requests).length = requests.length ∧
      (∀ k n : Nat, ((start source).answers requests)[k]? = some n →
        ∃ m, (requests.take (k + 1)).max? = some m ∧
          source.CountBefore (min m source.byteLength) n) ∧
      (requests.Pairwise (· ≤ ·) →
        ∀ k r n : Nat, requests[k]? = some r → ((start source).answers requests)[k]? = some n →
          source.CountBefore (min r source.byteLength) n) := by
  have hupTo (k n : Nat) (h : ((start source).answers requests)[k]? = some n) :
      ∃ m, (requests.take (k + 1)).max? = some m ∧
        source.CountBefore (min m source.byteLength) n := by
    have hcount := (standsAt_start source).countBefore_answer hrequests h
    cases requests with
    | nil => simp [answers] at h
    | cons r requests =>
      -- The start counts as a request for byte zero, which no maximum notices.
      rw [List.take_succ_cons, List.foldl_cons, Nat.zero_max] at hcount
      exact ⟨_, by rw [List.take_succ_cons, List.max?_cons'], hcount⟩
  refine ⟨length_answers (start source) requests, hupTo, ?_⟩
  intro hsorted k r n hr hn
  obtain ⟨m, hm, hcount⟩ := hupTo k n hn
  rw [max?_take_of_pairwise hsorted hr, Option.some.injEq] at hm
  rwa [hm]

/-- Requests that go back and past the end of a text whose second character takes two bytes: the
answer to one that goes back is that to the one before it. -/
theorem answers_countBefore_backwards :
    (∀ r ∈ [3, 1, 9], Text.IsBoundary (Text.ofString "a\u0628c") r ∨
        Text.byteLength (Text.ofString "a\u0628c") < r) ∧
      (start (Text.ofString "a\u0628c")).answers [3, 1, 9] = [2, 2, 3] ∧
      Text.CountBefore (Text.ofString "a\u0628c") 3 2 := by
  have hserved : ∀ r ∈ [3, 1, 9], Text.IsBoundary (Text.ofString "a\u0628c") r ∨
      Text.byteLength (Text.ofString "a\u0628c") < r := by decide
  obtain ⟨-, hupTo, -⟩ := answers_countBefore (Text.ofString "a\u0628c") [3, 1, 9] hserved
  obtain ⟨m, hm, hcount⟩ := hupTo 1 2 (by decide)
  obtain rfl : 3 = m := Option.some.inj hm
  exact ⟨hserved, by decide, hcount⟩

end OffsetCursor

end RtlLiterals
