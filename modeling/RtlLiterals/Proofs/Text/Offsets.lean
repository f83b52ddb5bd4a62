import RtlLiterals.Text.Utf8

/-!
# RtlLiterals.Proofs.Text.Offsets -- bytes and characters agree on the boundaries

A byte offset is a boundary of a text when it is the byte offset of one of the text's characters or
of its end. On boundaries every operation that counts in bytes is the list operation on
characters, and the cursor that converts one count to the other never loses its place.

## §A What is stated

* `byteOffset_lt_byteOffset`: later characters start at later bytes, so a boundary belongs to one
  character offset only.
* `sliceBytes?_byteOffset`: a slice between two boundaries is the slice of characters.
* `OffsetCursor.advance_byteOffset`: a cursor sent to a boundary stands on its character, and one
  sent backwards stays where it is.
-/

namespace RtlLiterals

namespace Text

/-! ## §B Counting bytes -/

@[simp] theorem byteLength_nil : byteLength [] = 0 := rfl

@[simp] theorem byteLength_cons (c : Char) (t : Text) :
    byteLength (c :: t) = c.utf8Size + byteLength t := rfl

@[simp] theorem byteLength_singleton (c : Char) : byteLength [c] = c.utf8Size := rfl

theorem byteLength_append (a b : Text) : byteLength (a ++ b) = byteLength a + byteLength b := by
  induction a with
  | nil => simp
  | cons c a ih => rw [List.cons_append, byteLength_cons, byteLength_cons, ih, Nat.add_assoc]

theorem toList_toBytes (t : Text) : t.toBytes.data.toList = t.flatMap String.utf8EncodeChar := by
  rw [toBytes, String.toUTF8, String.toByteArray_ofList, List.utf8Encode,
    List.toList_data_toByteArray]

/-- The bytes that are counted are those that a file holds. -/
theorem size_toBytes (t : Text) : t.toBytes.size = byteLength t := by
  rw [ByteArray.size, ← Array.length_toList, toList_toBytes]
  induction t with
  | nil => rfl
  | cons c t ih =>
    rw [List.flatMap_cons, List.length_append, String.length_utf8EncodeChar, ih, byteLength_cons]

theorem byteLength_pos {t : Text} (h : t ≠ []) : 0 < byteLength t := by
  cases t with
  | nil => exact absurd rfl h
  | cons c t =>
    have := c.utf8Size_pos
    rw [byteLength_cons]
    omega

@[simp] theorem byteOffset_zero (t : Text) : byteOffset t 0 = 0 := rfl

@[simp] theorem byteOffset_cons_succ (c : Char) (t : Text) (n : Nat) :
    byteOffset (c :: t) (n + 1) = c.utf8Size + byteOffset t n := rfl

theorem byteOffset_add (t : Text) (m k : Nat) :
    byteOffset t (m + k) = byteOffset t m + byteOffset (t.drop m) k := by
  rw [byteOffset, List.take_add, byteLength_append]
  rfl

@[simp] theorem byteOffset_append_length (a r : Text) :
    byteOffset (a ++ r) a.length = byteLength a := by
  rw [byteOffset, List.take_append_length]

/-- The bytes of a slice follow the bytes before it. -/
theorem byteOffset_add_length {t a r : Text} {n : Nat} (h : t.drop n = a ++ r) :
    byteOffset t (n + a.length) = byteOffset t n + byteLength a := by
  rw [byteOffset_add, h, byteOffset_append_length]

/-- Where a slice ends: inside the text, before what follows it, and by as many bytes later. -/
theorem after_slice {t a r : Text} {n : Nat} (hn : n ≤ t.length) (h : t.drop n = a ++ r) :
    n + a.length ≤ t.length ∧ t.drop (n + a.length) = r ∧
      byteOffset t (n + a.length) = byteOffset t n + byteLength a := by
  refine ⟨?_, ?_, byteOffset_add_length h⟩
  · have hlen := congrArg List.length h
    rw [List.length_drop, List.length_append] at hlen
    omega
  · rw [← List.drop_drop, h, List.drop_append_length]

theorem byteOffset_lt_byteOffset {t : Text} {m n : Nat} (h : m < n) (hn : n ≤ t.length) :
    byteOffset t m < byteOffset t n := by
  obtain ⟨k, rfl⟩ : ∃ k, n = m + k := ⟨n - m, by omega⟩
  rw [byteOffset_add]
  have hpos : 0 < byteOffset (t.drop m) k := by
    apply byteLength_pos
    intro hnil
    have hlen := congrArg List.length hnil
    rw [List.length_take, List.length_drop, List.length_nil] at hlen
    omega
  omega

theorem byteOffset_le_byteOffset {t : Text} {m n : Nat} (h : m ≤ n) :
    byteOffset t m ≤ byteOffset t n := by
  obtain ⟨k, rfl⟩ : ∃ k, n = m + k := ⟨n - m, by omega⟩
  rw [byteOffset_add]
  omega

theorem byteOffset_length (t : Text) : byteOffset t t.length = byteLength t := by
  rw [byteOffset, List.take_length]

theorem byteOffset_le_byteLength {t : Text} {n : Nat} (hn : n ≤ t.length) :
    byteOffset t n ≤ byteLength t := by
  rw [← byteOffset_length]
  exact byteOffset_le_byteOffset hn

theorem byteOffset_max (t : Text) (m n : Nat) :
    byteOffset t (max m n) = max (byteOffset t m) (byteOffset t n) := by
  rcases Nat.le_total m n with h | h
  · rw [Nat.max_eq_right h, Nat.max_eq_right (byteOffset_le_byteOffset h)]
  · rw [Nat.max_eq_left h, Nat.max_eq_left (byteOffset_le_byteOffset h)]

/-- Boundaries are ordered as the characters are. -/
theorem byteOffset_le_iff {t : Text} {m n : Nat} (hm : m ≤ t.length) :
    byteOffset t m ≤ byteOffset t n ↔ m ≤ n := by
  constructor
  · intro h
    refine Nat.le_of_not_lt fun hlt => ?_
    have := byteOffset_lt_byteOffset hlt hm
    omega
  · exact byteOffset_le_byteOffset

/-- Inside the text, a boundary is the one of its own character only. -/
theorem byteOffset_inj {t : Text} {m n : Nat} (hm : m < t.length)
    (h : byteOffset t n = byteOffset t m) : n = m := by
  have hle : m ≤ n := (byteOffset_le_iff (Nat.le_of_lt hm)).1 (Nat.le_of_eq h.symm)
  refine Nat.le_antisymm (Nat.le_of_not_lt fun hlt => ?_) hle
  have hnext : byteOffset t m < byteOffset t (m + 1) := byteOffset_lt_byteOffset m.lt_succ_self hm
  have hlast : byteOffset t (m + 1) ≤ byteOffset t n := byteOffset_le_byteOffset hlt
  omega

/-! ## §C Slices between boundaries -/

theorem dropBytes?_cons {n : Nat} (hn : 0 < n) (c : Char) (t : Text) :
    dropBytes? n (c :: t) = if c.utf8Size ≤ n then dropBytes? (n - c.utf8Size) t else none := by
  cases n with
  | zero => omega
  | succ n => rfl

theorem takeBytes?_cons {n : Nat} (hn : 0 < n) (c : Char) (t : Text) :
    takeBytes? n (c :: t) =
      if c.utf8Size ≤ n then (takeBytes? (n - c.utf8Size) t).map (c :: ·) else none := by
  cases n with
  | zero => omega
  | succ n => rfl

theorem dropBytes?_byteOffset (t : Text) (n : Nat) :
    dropBytes? (byteOffset t n) t = some (t.drop n) := by
  induction t generalizing n with
  | nil => simp [byteOffset, dropBytes?]
  | cons c t ih =>
    cases n with
    | zero => rfl
    | succ n =>
      have hpos := c.utf8Size_pos
      rw [byteOffset_cons_succ, dropBytes?_cons (by omega), if_pos (by omega),
        Nat.add_sub_cancel_left, ih, List.drop_succ_cons]

/-- Bytes that can be dropped end with a character. -/
theorem exists_byteOffset_of_dropBytes? {t rest : Text} {b : Nat} (h : dropBytes? b t = some rest) :
    ∃ n, n ≤ t.length ∧ byteOffset t n = b := by
  induction t generalizing b with
  | nil =>
    cases b with
    | zero => exact ⟨0, Nat.le_refl _, rfl⟩
    | succ b => cases h
  | cons c t ih =>
    rcases Nat.eq_zero_or_pos b with rfl | hb
    · exact ⟨0, Nat.zero_le _, rfl⟩
    · rw [dropBytes?_cons hb] at h
      split at h
      · obtain ⟨n, hn, hoffset⟩ := ih h
        refine ⟨n + 1, Nat.succ_le_succ hn, ?_⟩
        rw [byteOffset_cons_succ, hoffset]
        omega
      · cases h

theorem takeBytes?_byteOffset (t : Text) (n : Nat) :
    takeBytes? (byteOffset t n) t = some (t.take n) := by
  induction t generalizing n with
  | nil => simp [byteOffset, takeBytes?]
  | cons c t ih =>
    cases n with
    | zero => rfl
    | succ n =>
      have hpos := c.utf8Size_pos
      rw [byteOffset_cons_succ, takeBytes?_cons (by omega), if_pos (by omega),
        Nat.add_sub_cancel_left, ih, List.take_succ_cons, Option.map_some]

/-- Bytes that can be taken end with a character. -/
theorem exists_byteOffset_of_takeBytes? {t taken : Text} {b : Nat}
    (h : takeBytes? b t = some taken) : ∃ n, n ≤ t.length ∧ byteOffset t n = b := by
  induction t generalizing b taken with
  | nil =>
    cases b with
    | zero => exact ⟨0, Nat.le_refl _, rfl⟩
    | succ b => cases h
  | cons c t ih =>
    rcases Nat.eq_zero_or_pos b with rfl | hb
    · exact ⟨0, Nat.zero_le _, rfl⟩
    · rw [takeBytes?_cons hb] at h
      split at h
      · obtain ⟨rest, hrest, _⟩ := Option.map_eq_some_iff.1 h
        obtain ⟨n, hn, hoffset⟩ := ih hrest
        refine ⟨n + 1, Nat.succ_le_succ hn, ?_⟩
        rw [byteOffset_cons_succ, hoffset]
        omega
      · cases h

/-- **A slice between boundaries.** Counted in bytes it is the slice of characters. -/
theorem sliceBytes?_byteOffset (t : Text) {m n : Nat} (h : m ≤ n) :
    sliceBytes? t (byteOffset t m) (byteOffset t n) = some (t.slice m n) := by
  have hsub : byteOffset t n - byteOffset t m = byteOffset (t.drop m) (n - m) := by
    rw [show n = m + (n - m) by omega, byteOffset_add]
    simp
  rw [sliceBytes?, if_pos (byteOffset_le_byteOffset h), dropBytes?_byteOffset, hsub,
    Option.bind_some, takeBytes?_byteOffset]
  rfl

/-- Where a slice in bytes can be taken, both its ends are boundaries. -/
theorem exists_byteOffset_of_sliceBytes? {t taken : Text} {start stop : Nat}
    (h : sliceBytes? t start stop = some taken) :
    ∃ m n, m ≤ n ∧ n ≤ t.length ∧ byteOffset t m = start ∧ byteOffset t n = stop := by
  unfold sliceBytes? at h
  split at h
  next hle =>
    obtain ⟨rest, hrest, htake⟩ := Option.bind_eq_some_iff.1 h
    obtain ⟨m, hm, rfl⟩ := exists_byteOffset_of_dropBytes? hrest
    rw [dropBytes?_byteOffset, Option.some.injEq] at hrest
    subst hrest
    obtain ⟨k, hk, hoffset⟩ := exists_byteOffset_of_takeBytes? htake
    rw [List.length_drop] at hk
    refine ⟨m, m + k, Nat.le_add_right m k, by omega, rfl, ?_⟩
    rw [byteOffset_add, hoffset]
    omega
  next => cases h

end Text

namespace OffsetCursor

/-! ## §D The cursor -/

/-- The cursor that stands on character `n` of a text. -/
def onChar (source : Text) (n : Nat) : OffsetCursor := ⟨source.drop n, source.byteOffset n, n⟩

@[simp] theorem onChar_chars (source : Text) (n : Nat) : (onChar source n).chars = n := rfl

theorem start_eq_onChar (source : Text) : start source = onChar source 0 := rfl

theorem seek_forward {source : Text} {m n : Nat} (h : n ≤ m) (hm : m ≤ source.length) :
    seek (source.byteOffset m) (source.drop n) (source.byteOffset n) n = onChar source m := by
  rcases Nat.eq_or_lt_of_le h with rfl | hlt
  · cases hrest : source.drop n with
    | nil => rw [seek, onChar, hrest]
    | cons c rest => rw [seek, if_neg (Nat.lt_irrefl _), onChar, hrest]
  · have hget : source.drop n = source[n] :: source.drop (n + 1) :=
      List.drop_eq_getElem_cons (by omega)
    have hnext : source.byteOffset (n + 1) = source.byteOffset n + source[n].utf8Size :=
      Text.byteOffset_add_length (a := [source[n]]) hget
    rw [hget, seek, if_pos (Text.byteOffset_lt_byteOffset hlt hm), ← hnext]
    exact seek_forward hlt hm
termination_by m - n

theorem seek_backward {source : Text} {target n : Nat} (h : target ≤ source.byteOffset n) :
    seek target (source.drop n) (source.byteOffset n) n = onChar source n := by
  cases hrest : source.drop n with
  | nil => rw [seek, onChar, hrest]
  | cons c rest => rw [seek, if_neg (by omega), onChar, hrest]

/-- **One move of the cursor.** Sent to a boundary it stands on the character there, and it never
moves back. -/
theorem advance_byteOffset {source : Text} {m n : Nat} (hm : m ≤ source.length) :
    (onChar source n).advance (source.byteOffset m) = onChar source (max n m) := by
  rcases Nat.le_total n m with h | h
  · rw [Nat.max_eq_right h]
    exact seek_forward h hm
  · rw [Nat.max_eq_left h]
    exact seek_backward (Text.byteOffset_le_byteOffset h)

theorem advance_of_le {source : Text} {m n : Nat} (h : n ≤ m) (hm : m ≤ source.length) :
    (onChar source n).advance (source.byteOffset m) = onChar source m := by
  rw [advance_byteOffset hm, Nat.max_eq_right h]

end OffsetCursor

end RtlLiterals
