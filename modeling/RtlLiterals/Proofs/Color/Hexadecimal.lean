import Mathlib.Tactic.SplitIfs
import RtlLiterals.Decoration
import RtlLiterals.Proofs.Literal.Delimiters
import RtlLiterals.Proofs.Number.ReadBack

/-!
# RtlLiterals.Proofs.Color.Hexadecimal -- which texts write a colour

A colour is written as six hexadecimal digits, each in either case, and one `#` may stand before
them. Every other text writes none: a second `#`, a sign, five digits, a character that only looks
like a digit. A background that writes a colour is handed on as its channels in decimal with the
opacity behind them, any other one as it is.

## §A How it goes

`IsDigit` is the table of the digits and `WrittenAs` says which six digits write a colour. Reading
agrees with it (`ofHex?_eq_some_iff`).

Colours can also be read from the bytes of a text: six bytes, all of them digits, and then three
slices that are read as numbers. A slice may be cut inside a character, and a number may have a sign
or be too large. `readBytes` keeps these failures apart, and `readBytes_eq` says that none of them
is reached once the bytes have been looked at.
-/

namespace RtlLiterals

/-! ## §B Digits -/

namespace Color

open Text (hexValue? hexDigit)

/-- The digits in lower case, by value. -/
def lowerDigits : Text := Text.ofString "0123456789abcdef"

/-- The digits in upper case, by value. -/
def upperDigits : Text := Text.ofString "0123456789ABCDEF"

/-- **`IsDigit d n`** -- the character is the hexadecimal digit of value `n`. -/
def IsDigit (d : Char) (n : Nat) : Prop := lowerDigits[n]? = some d ∨ upperDigits[n]? = some d

theorem IsDigit.lt {d : Char} {n : Nat} (h : IsDigit d n) : n < 16 := by
  rcases h with h | h
  · exact (List.getElem?_eq_some_iff.1 h).1
  · exact (List.getElem?_eq_some_iff.1 h).1

theorem toNat_lt_of_hexValue? {d : Char} {n : Nat} (h : hexValue? d = some n) : d.toNat < 128 := by
  unfold hexValue? at h
  have hupTo {e : Char} (he : e.toNat < 128) (hle : d ≤ e) : d.toNat < 128 :=
    Nat.lt_of_le_of_lt hle he
  split_ifs at h with hdigit hlower hupper
  · exact hupTo (by decide) hdigit.2
  · exact hupTo (by decide) hlower.2
  · exact hupTo (by decide) hupper.2

/-- **Digits.** A character has a value exactly if it is in the table. -/
theorem hexValue?_eq_some_iff {d : Char} {n : Nat} : hexValue? d = some n ↔ IsDigit d n := by
  constructor
  · intro h
    -- The value of every ASCII character is looked up.
    have hall : ∀ i : Fin 128, (hexValue? (Char.ofNat i)).all (fun m =>
        lowerDigits[m]? == some (Char.ofNat i) || upperDigits[m]? == some (Char.ofNat i)) = true := by
      decide +kernel
    have hchar := hall ⟨d.toNat, toNat_lt_of_hexValue? h⟩
    rw [Char.ofNat_toNat, h, Option.all_some, Bool.or_eq_true, beq_iff_eq, beq_iff_eq] at hchar
    exact hchar
  · intro h
    -- Conversely, the two digits of every value are looked up.
    have hall : ∀ m : Fin 16, lowerDigits[m.val]?.bind hexValue? = some m.val ∧
        upperDigits[m.val]?.bind hexValue? = some m.val := by decide
    have hvalue : lowerDigits[n]?.bind hexValue? = some n ∧
        upperDigits[n]?.bind hexValue? = some n := hall ⟨n, h.lt⟩
    rcases h with h | h
    · rw [← hvalue.1, h, Option.bind_some]
    · rw [← hvalue.2, h, Option.bind_some]

theorem IsDigit.digitIn?_eq {d : Char} {n : Nat} (h : IsDigit d n) : Text.digitIn? 16 d = some n := by
  rw [Text.digitIn?, hexValue?_eq_some_iff.2 h, Option.filter_some, if_pos (decide_eq_true h.lt)]

theorem IsDigit.ne {d e : Char} {n : Nat} (h : IsDigit d n) (he : hexValue? e = none) : d ≠ e := by
  rintro rfl
  rw [hexValue?_eq_some_iff.2 h] at he
  cases he

/-! ## §C Six digits -/

/-- The two digits write the channel, the high one first. -/
def IsPair (v : UInt8) (high low : Char) : Prop :=
  ∃ m n, IsDigit high m ∧ IsDigit low n ∧ v.toNat = 16 * m + n

/-- **`c.WrittenAs t`** -- the text is six digits, two for each channel of the colour. -/
def WrittenAs (c : Color) (t : Text) : Prop :=
  ∃ r₁ r₂ g₁ g₂ b₁ b₂, t = [r₁, r₂, g₁, g₂, b₁, b₂] ∧
    IsPair c.red r₁ r₂ ∧ IsPair c.green g₁ g₂ ∧ IsPair c.blue b₁ b₂

/-- **`c.NamedBy t`** -- the text writes the colour, with or without a `#` before the digits. -/
def NamedBy (c : Color) (t : Text) : Prop := ∃ ds, (t = ds ∨ t = '#' :: ds) ∧ c.WrittenAs ds

/-- **`SixDigits t`** -- the text is six hexadecimal digits. -/
def SixDigits (t : Text) : Prop := t.length = 6 ∧ ∀ d ∈ t, ∃ n, IsDigit d n

/-- A pair of digits in terms of their values, as they are read. -/
theorem isPair_iff {v : UInt8} {high low : Char} :
    IsPair v high low ↔
      ∃ m n, hexValue? high = some m ∧ hexValue? low = some n ∧ channel m n = v := by
  have hchannel {m n : Nat} (hm : m < 16) (hn : n < 16) :
      (channel m n).toNat = 16 * m + n :=
    UInt8.toNat_ofNat_of_lt' (show 16 * m + n < 256 by omega)
  constructor
  · rintro ⟨m, n, hm, hn, hvalue⟩
    refine ⟨m, n, hexValue?_eq_some_iff.2 hm, hexValue?_eq_some_iff.2 hn, ?_⟩
    rw [← UInt8.toNat_inj, hchannel hm.lt hn.lt, hvalue]
  · rintro ⟨m, n, hm, hn, rfl⟩
    have hm := hexValue?_eq_some_iff.1 hm
    have hn := hexValue?_eq_some_iff.1 hn
    exact ⟨m, n, hm, hn, hchannel hm.lt hn.lt⟩

theorem IsPair.isDigit {v : UInt8} {high low : Char} (h : IsPair v high low) :
    ∀ d ∈ [high, low], ∃ n, IsDigit d n := by
  obtain ⟨m, n, hm, hn, -⟩ := h
  intro d hd
  rcases List.mem_cons.1 hd with rfl | hd
  · exact ⟨m, hm⟩
  · obtain rfl := List.mem_singleton.1 hd
    exact ⟨n, hn⟩

/-- Any two digits write a channel. -/
theorem exists_isPair {high low : Char} (hhigh : ∃ m, IsDigit high m) (hlow : ∃ n, IsDigit low n) :
    ∃ v, IsPair v high low := by
  obtain ⟨m, hm⟩ := hhigh
  obtain ⟨n, hn⟩ := hlow
  exact ⟨channel m n,
    isPair_iff.2 ⟨m, n, hexValue?_eq_some_iff.2 hm, hexValue?_eq_some_iff.2 hn, rfl⟩⟩

theorem WrittenAs.sixDigits {c : Color} {t : Text} (h : c.WrittenAs t) : SixDigits t := by
  obtain ⟨r₁, r₂, g₁, g₂, b₁, b₂, rfl, hred, hgreen, hblue⟩ := h
  refine ⟨rfl, ?_⟩
  intro d hd
  rcases List.mem_append.1 (show d ∈ [r₁, r₂] ++ ([g₁, g₂] ++ [b₁, b₂]) from hd) with hd | hd
  · exact hred.isDigit d hd
  · rcases List.mem_append.1 hd with hd | hd
    · exact hgreen.isDigit d hd
    · exact hblue.isDigit d hd

/-- Any six digits write a colour. -/
theorem SixDigits.exists_writtenAs {t : Text} (h : SixDigits t) : ∃ c : Color, c.WrittenAs t := by
  obtain ⟨hlen, hdigits⟩ := h
  match t, hlen with
  | [r₁, r₂, g₁, g₂, b₁, b₂], _ =>
    have hdigit (d : Char) (hd : d ∈ [r₁, r₂, g₁, g₂, b₁, b₂] := by simp) := hdigits d hd
    obtain ⟨red, hred⟩ := exists_isPair (hdigit r₁) (hdigit r₂)
    obtain ⟨green, hgreen⟩ := exists_isPair (hdigit g₁) (hdigit g₂)
    obtain ⟨blue, hblue⟩ := exists_isPair (hdigit b₁) (hdigit b₂)
    exact ⟨⟨red, green, blue⟩, r₁, r₂, g₁, g₂, b₁, b₂, rfl, hred, hgreen, hblue⟩

/-! ## §D Reading -/

theorem ofHex?_eq_some_iff_writtenAs {t : Text} {c : Color} :
    ofHex? t = some c ↔ c.WrittenAs (withoutHash t) := by
  unfold ofHex?
  constructor
  · intro h
    split at h
    next m₁ m₂ m₃ m₄ m₅ m₆ hvalues =>
      obtain rfl := Option.some.inj h
      simp only [List.map_eq_cons_iff, List.map_eq_nil_iff] at hvalues
      obtain ⟨r₁, _, ht, hr₁, r₂, _, rfl, hr₂, g₁, _, rfl, hg₁, g₂, _, rfl, hg₂, b₁, _, rfl, hb₁,
        b₂, _, rfl, hb₂, rfl⟩ := hvalues
      exact ⟨r₁, r₂, g₁, g₂, b₁, b₂, ht, isPair_iff.2 ⟨m₁, m₂, hr₁, hr₂, rfl⟩,
        isPair_iff.2 ⟨m₃, m₄, hg₁, hg₂, rfl⟩, isPair_iff.2 ⟨m₅, m₆, hb₁, hb₂, rfl⟩⟩
    next => cases h
  · rintro ⟨r₁, r₂, g₁, g₂, b₁, b₂, ht, hred, hgreen, hblue⟩
    obtain ⟨m₁, m₂, hr₁, hr₂, hred⟩ := isPair_iff.1 hred
    obtain ⟨m₃, m₄, hg₁, hg₂, hgreen⟩ := isPair_iff.1 hgreen
    obtain ⟨m₅, m₆, hb₁, hb₂, hblue⟩ := isPair_iff.1 hblue
    rw [ht]
    simp only [List.map_cons, List.map_nil, hr₁, hr₂, hg₁, hg₂, hb₁, hb₂, hred, hgreen, hblue]

theorem withoutHash_of_ne {d : Char} (hd : d ≠ '#') (t : Text) : withoutHash (d :: t) = d :: t := by
  unfold withoutHash
  split
  next h => exact absurd (List.cons.inj h).1 hd
  next => rfl

/-- One `#` is left out, and digits do not start with a `#`. -/
theorem namedBy_iff {t : Text} {c : Color} : c.NamedBy t ↔ c.WrittenAs (withoutHash t) := by
  constructor
  · rintro ⟨ds, rfl | rfl, h⟩
    · obtain ⟨r₁, _, _, _, _, _, rfl, ⟨m, _, hr₁, -⟩, -⟩ := id h
      rwa [withoutHash_of_ne (hr₁.ne rfl)]
    · exact h
  · intro h
    unfold withoutHash at h
    split at h
    next ds => exact ⟨ds, .inr rfl, h⟩
    next => exact ⟨t, .inl rfl, h⟩

/-- **Reading.** A colour is read exactly from the texts that write it. -/
theorem ofHex?_eq_some_iff {t : Text} {c : Color} : ofHex? t = some c ↔ c.NamedBy t := by
  rw [ofHex?_eq_some_iff_writtenAs, namedBy_iff]

/-! ## §E Writing -/

/-- The two digits of a channel, each in a case of its own. -/
def pair (v : UInt8) (upper₁ upper₂ : Bool) : Text :=
  [hexDigit upper₁ (v.toNat / 16), hexDigit upper₂ (v.toNat % 16)]

/-- The colour in six digits, the `i`-th one in upper case where `upper i` holds. -/
def written (c : Color) (upper : Fin 6 → Bool) : Text :=
  pair c.red (upper 0) (upper 1) ++ pair c.green (upper 2) (upper 3) ++
    pair c.blue (upper 4) (upper 5)

theorem isDigit_hexDigit (upper : Bool) {n : Nat} (h : n < 16) : IsDigit (hexDigit upper n) n :=
  hexValue?_eq_some_iff.1 (Text.hexValue?_hexDigit upper h)

theorem isPair_pair (v : UInt8) (upper₁ upper₂ : Bool) :
    IsPair v (hexDigit upper₁ (v.toNat / 16)) (hexDigit upper₂ (v.toNat % 16)) := by
  have hv := v.toNat_lt
  exact ⟨v.toNat / 16, v.toNat % 16, isDigit_hexDigit upper₁ (by omega),
    isDigit_hexDigit upper₂ (by omega), (Nat.div_add_mod v.toNat 16).symm⟩

/-- Whatever case each digit has, the digits write the colour. -/
theorem writtenAs_written (c : Color) (upper : Fin 6 → Bool) : c.WrittenAs (c.written upper) :=
  ⟨_, _, _, _, _, _, rfl, isPair_pair c.red (upper 0) (upper 1),
    isPair_pair c.green (upper 2) (upper 3), isPair_pair c.blue (upper 4) (upper 5)⟩

/-! ## §F Reading by bytes -/

/-- Why reading by bytes gives no colour. -/
inductive ReadError where
  /-- There are not six bytes, or one of them is no digit. -/
  | format
  /-- A channel would start or end inside a character. -/
  | boundary
  /-- The text of a channel is no number of eight bits. -/
  | number
deriving DecidableEq, Repr

/-- The byte is an ASCII hexadecimal digit. -/
def isHexByte (b : UInt8) : Bool :=
  (0x30 ≤ b && b ≤ 0x39) || (0x61 ≤ b && b ≤ 0x66) || (0x41 ≤ b && b ≤ 0x46)

/-- The text without a `+` before something else. -/
def withoutPlus : Text → Text
  | '+' :: d :: t => d :: t
  | t => t

/-- The number of eight bits that a text writes in base sixteen; a `+` may stand before its digits.
-/
def eightBits? (t : Text) : Option UInt8 :=
  (Text.natIn? 16 (withoutPlus t)).bind fun n => if n < 256 then some (UInt8.ofNat n) else none

/-- The channel that two bytes of a text write, from byte `start` on. -/
def channelAt (t : Text) (start : Nat) : Except ReadError UInt8 :=
  match t.sliceBytes? start (start + 2) with
  | none => .error .boundary
  | some ds =>
    match eightBits? ds with
    | none => .error .number
    | some v => .ok v

/-- The colour that the bytes of a text write after an optional `#`. -/
def readBytes (t : Text) : Except ReadError Color :=
  let ds := withoutHash t
  if ds.toBytes.size = 6 ∧ ds.toBytes.data.toList.all isHexByte = true then do
    let red ← channelAt ds 0
    let green ← channelAt ds 2
    let blue ← channelAt ds 4
    return ⟨red, green, blue⟩
  else .error .format

/-- A character outside ASCII has a byte that is greater than all of ASCII. -/
theorem exists_high_byte {d : Char} (h : 128 ≤ d.toNat) :
    ∃ b ∈ String.utf8EncodeChar d, 128 ≤ b.toNat := by
  have hlong : ¬ d.val.toNat ≤ 127 := by
    have hval : d.toNat = d.val.toNat := rfl
    omega
  have hhigh (n m : Nat) (hm : 128 ≤ m) (hn : n + m < 256) : 128 ≤ (UInt8.ofNat (n + m)).toNat := by
    rw [UInt8.toNat_ofNat_of_lt' (by simp only [UInt8.size]; omega)]
    omega
  simp only [String.utf8EncodeChar, if_neg hlong]
  split_ifs
  · exact ⟨_, List.mem_cons_self, hhigh _ 192 (by omega) (by omega)⟩
  · exact ⟨_, List.mem_cons_self, hhigh _ 224 (by omega) (by omega)⟩
  · exact ⟨_, List.mem_cons_self, hhigh _ 240 (by omega) (by omega)⟩

theorem isHexByte_lt {b : UInt8} (h : isHexByte b = true) : b.toNat < 128 := by
  simp only [isHexByte, Bool.or_eq_true, Bool.and_eq_true, decide_eq_true_eq,
    UInt8.le_iff_toNat_le, UInt8.reduceToNat] at h
  omega

/-- The bytes of a character are digits exactly if it is one. -/
theorem all_isHexByte_iff {d : Char} :
    (String.utf8EncodeChar d).all isHexByte = true ↔ ∃ n, IsDigit d n := by
  have hall : ∀ i : Fin 128, (String.utf8EncodeChar (Char.ofNat i)).all isHexByte =
      (hexValue? (Char.ofNat i)).isSome := by decide +kernel
  have hvalue : (∃ n, IsDigit d n) ↔ (hexValue? d).isSome = true := by
    simp only [← hexValue?_eq_some_iff, Option.isSome_iff_exists]
  rw [hvalue]
  by_cases hd : d.toNat < 128
  · have hchar := hall ⟨d.toNat, hd⟩
    rw [Char.ofNat_toNat] at hchar
    rw [hchar]
  · -- Outside ASCII neither holds: one byte is too large, and there is no value.
    constructor
    · intro h
      obtain ⟨b, hb, hhigh⟩ := exists_high_byte (Nat.le_of_not_lt hd)
      have hlow := isHexByte_lt (List.all_eq_true.1 h b hb)
      omega
    · intro h
      obtain ⟨n, hn⟩ := Option.isSome_iff_exists.1 h
      exact absurd (toNat_lt_of_hexValue? hn) hd

/-- Digits take one byte each. -/
theorem byteLength_of_isDigit {t : Text} (h : ∀ d ∈ t, ∃ n, IsDigit d n) :
    t.byteLength = t.length := by
  induction t with
  | nil => rfl
  | cons d t ih =>
    obtain ⟨n, hn⟩ := h d List.mem_cons_self
    have hsize : d.utf8Size = 1 := by
      have hlow := toNat_lt_of_hexValue? (hexValue?_eq_some_iff.2 hn)
      refine Char.utf8Size_eq_one_iff.2 (UInt32.le_iff_toNat_le.2 ?_)
      exact Nat.le_of_lt_succ hlow
    rw [Text.byteLength_cons, hsize, ih fun e he => h e (List.mem_cons_of_mem d he),
      List.length_cons, Nat.add_comm]

/-- **What the bytes show.** Six bytes that are digits are six characters that are digits. -/
theorem sixDigits_iff_bytes {t : Text} :
    t.toBytes.size = 6 ∧ t.toBytes.data.toList.all isHexByte = true ↔ SixDigits t := by
  have hdigits : t.toBytes.data.toList.all isHexByte = true ↔ ∀ d ∈ t, ∃ n, IsDigit d n := by
    rw [Text.toList_toBytes, List.all_flatMap, List.all_eq_true]
    exact forall₂_congr fun d _ => all_isHexByte_iff
  rw [hdigits, Text.size_toBytes, SixDigits]
  refine and_congr_left fun h => ?_
  rw [byteLength_of_isDigit h]

theorem withoutPlus_of_ne {d : Char} (hd : d ≠ '+') (t : Text) : withoutPlus (d :: t) = d :: t := by
  unfold withoutPlus
  split
  next h => exact absurd (List.cons.inj h).1 hd
  next => rfl

/-- Two digits have no sign, and their number fits. -/
theorem IsPair.eightBits?_eq {v : UInt8} {high low : Char} (h : IsPair v high low) :
    eightBits? [high, low] = some v := by
  obtain ⟨m, n, hm, hn, hvalue⟩ := h
  have hnumber : Text.natIn? 16 [high, low] = some (16 * m + n) := by
    simp [Text.natIn?, hm.digitIn?_eq, hn.digitIn?_eq]
  rw [eightBits?, withoutPlus_of_ne (hm.ne rfl), hnumber, ← hvalue, Option.bind_some,
    if_pos v.toNat_lt, UInt8.ofNat_toNat]

/-- A channel is read where two digits stand behind other ones. -/
theorem channelAt_append {a r : Text} {high low : Char} {v : UInt8}
    (ha : ∀ d ∈ a, ∃ n, IsDigit d n) (hv : IsPair v high low) :
    channelAt (a ++ ([high, low] ++ r)) a.length = .ok v := by
  have hslice : Text.sliceBytes? (a ++ ([high, low] ++ r)) a.length (a.length + 2) =
      some [high, low] := by
    have hbytes := Text.sliceBytes?_append a [high, low] r
    rwa [Text.byteLength_append, byteLength_of_isDigit ha, byteLength_of_isDigit hv.isDigit]
      at hbytes
  simp only [channelAt, hslice, hv.eightBits?_eq]

theorem readBytes_of_writtenAs {t : Text} {c : Color} (h : c.WrittenAs (withoutHash t)) :
    readBytes t = .ok c := by
  rw [readBytes, if_pos (sixDigits_iff_bytes.2 h.sixDigits)]
  obtain ⟨r₁, r₂, g₁, g₂, b₁, b₂, hds, hred, hgreen, hblue⟩ := h
  have hbefore : ∀ d ∈ [r₁, r₂] ++ [g₁, g₂], ∃ n, IsDigit d n := by
    intro d hd
    rcases List.mem_append.1 hd with hd | hd
    · exact hred.isDigit d hd
    · exact hgreen.isDigit d hd
  -- Two, four and six digits in, the slices are the three pairs.
  have hfirst : channelAt [r₁, r₂, g₁, g₂, b₁, b₂] 0 = .ok c.red :=
    channelAt_append (a := []) (r := [g₁, g₂, b₁, b₂]) nofun hred
  have hsecond : channelAt [r₁, r₂, g₁, g₂, b₁, b₂] 2 = .ok c.green :=
    channelAt_append (a := [r₁, r₂]) (r := [b₁, b₂]) hred.isDigit hgreen
  have hthird : channelAt [r₁, r₂, g₁, g₂, b₁, b₂] 4 = .ok c.blue :=
    channelAt_append (a := [r₁, r₂, g₁, g₂]) (r := []) hbefore hblue
  simp only [hds, hfirst, hsecond, hthird]
  rfl

/-- **Reading by bytes.** It gives the colours that reading by characters gives, and there is one
way only in which it fails: no slice is cut inside a character and no number is refused. -/
theorem readBytes_eq (t : Text) :
    readBytes t = match ofHex? t with
      | some c => .ok c
      | none => .error .format := by
  cases h : ofHex? t with
  | some c => exact readBytes_of_writtenAs (ofHex?_eq_some_iff_writtenAs.1 h)
  | none =>
    -- Six digits would write a colour, so the bytes are refused before any slice is cut.
    have hdigits : ¬ SixDigits (withoutHash t) := by
      intro hsix
      obtain ⟨c, hc⟩ := hsix.exists_writtenAs
      rw [ofHex?_eq_some_iff_writtenAs.2 hc] at h
      cases h
    rw [readBytes, if_neg (mt sixDigits_iff_bytes.1 hdigits)]

/-! ## §G Backgrounds -/

/-- What is painted for a colour: its channels in decimal and the opacity, in this order. -/
theorem background_of_namedBy {s : DecorationSettings} {c : Color} (hs : s.enableBackground = true)
    (h : c.NamedBy s.backgroundColor) :
    (Style.ofSettings s).background =
      some (Text.ofString "rgba(" ++ Nat.toDigits 10 c.red.toNat ++ Text.ofString ", " ++
        Nat.toDigits 10 c.green.toNat ++ Text.ofString ", " ++ Nat.toDigits 10 c.blue.toNat ++
        Text.ofString ", " ++ s.backgroundOpacity.positional ++ Text.ofString ")") := by
  simp only [Style.ofSettings, if_pos hs, backgroundText, ofHex?_eq_some_iff.2 h]
  rfl

theorem background_of_not_namedBy {s : DecorationSettings} (hs : s.enableBackground = true)
    (h : ∀ c : Color, ¬ c.NamedBy s.backgroundColor) :
    (Style.ofSettings s).background = some s.backgroundColor := by
  have hnone : ofHex? s.backgroundColor = none :=
    Option.eq_none_iff_forall_ne_some.2 fun c hc => h c (ofHex?_eq_some_iff.1 hc)
  simp only [Style.ofSettings, if_pos hs, backgroundText, hnone]

/-- **Colours in hexadecimal.** A text is read exactly if it is six hexadecimal digits, after at
most one `#`, and the channels are the values of the three pairs of digits. A colour written in six
digits, each in either case and with or without a `#`, is read back. Looking at the bytes of the
text first gives the same, so that no slice is cut inside a character and no number is refused. A
background that writes a colour is painted as `rgba(`, its three channels in decimal and the opacity
of the settings, which is read back from there and is written without an exponent and with as few
places as can be, with commas and blanks between them and a bracket behind them; every other
background is handed on as it is. -/
theorem ofHex_namedBy :
    (∀ t, (∃ c, ofHex? t = some c) ↔ ∃ ds, (t = ds ∨ t = '#' :: ds) ∧ SixDigits ds) ∧
      (∀ t c, ofHex? t = some c ↔ c.NamedBy t) ∧
      (∀ (c : Color) (upper : Fin 6 → Bool),
        ofHex? (c.written upper) = some c ∧ ofHex? ('#' :: c.written upper) = some c) ∧
      (∀ t, readBytes t = match ofHex? t with
        | some c => .ok c
        | none => .error .format) ∧
      ∀ s : DecorationSettings, s.enableBackground = true →
        (∀ c : Color, c.NamedBy s.backgroundColor →
          (Style.ofSettings s).background =
            some (Text.ofString "rgba(" ++ Nat.toDigits 10 c.red.toNat ++ Text.ofString ", " ++
              Nat.toDigits 10 c.green.toNat ++ Text.ofString ", " ++
              Nat.toDigits 10 c.blue.toNat ++ Text.ofString ", " ++
              s.backgroundOpacity.positional ++ Text.ofString ")") ∧
          s.backgroundOpacity.IsPositional s.backgroundOpacity.positional) ∧
        ((∀ c : Color, ¬ c.NamedBy s.backgroundColor) →
          (Style.ofSettings s).background = some s.backgroundColor) := by
  refine ⟨fun t => ?_, fun t c => ofHex?_eq_some_iff, fun c upper => ?_, readBytes_eq, fun s hs => ?_⟩
  · constructor
    · rintro ⟨c, hc⟩
      obtain ⟨ds, ht, hds⟩ := ofHex?_eq_some_iff.1 hc
      exact ⟨ds, ht, hds.sixDigits⟩
    · rintro ⟨ds, ht, hds⟩
      obtain ⟨c, hc⟩ := hds.exists_writtenAs
      exact ⟨c, ofHex?_eq_some_iff.2 ⟨ds, ht, hc⟩⟩
  · have hwritten := writtenAs_written c upper
    exact ⟨ofHex?_eq_some_iff.2 ⟨_, .inl rfl, hwritten⟩, ofHex?_eq_some_iff.2 ⟨_, .inr rfl, hwritten⟩⟩
  · refine ⟨fun c hc => ⟨background_of_namedBy hs hc, ?_⟩, background_of_not_namedBy hs⟩
    exact Binary64.isPositional_positional s.backgroundOpacity

/-- Two cases in one text; a second `#`; three characters that take six bytes; a sign, which a
number of eight bits may have. -/
example :
    ofHex? (Text.ofString "#aBc0Ef") = some ⟨0xAB, 0xC0, 0xEF⟩ ∧
      ofHex? (Text.ofString "##abc0ef") = none ∧
      ofHex? (Text.ofString "\u0628\u0628\u0628") = none ∧
      ofHex? (Text.ofString "+1+2+3") = none ∧ eightBits? (Text.ofString "+1") = some 1 := by
  decide

/-- What is painted when nothing is set. -/
example : (Style.ofSettings .default).background =
    some (Text.ofString "rgba(255, 255, 255, 0.05)") := by
  decide +kernel

end Color

end RtlLiterals
