/-
Reading bytes is the inverse of writing text.

The pieces of a byte sequence are made of its bytes, in order and with none left out
(`pieces_bytes`), and written characters are read back one by one (`run_utf8EncodeChar`). So bytes
are a text exactly when they are what the text is written as (`decode_eq_ok_iff`). An ASCII byte
never continues a character: it ends whatever stands in front of it, whichever ASCII byte it is
(`pieces_append_ascii`).
-/
import GraphGateway.Text.Utf8

namespace GraphGateway.Text.Utf8

open String (utf8EncodeChar)

/-! ## Writing -/

theorem toList_loop (bytes : ByteArray) (i : Nat) (read : List UInt8) :
    ByteArray.toList.loop bytes i read = read.reverse ++ bytes.data.toList.drop i := by
  fun_induction ByteArray.toList.loop bytes i read with
  | case1 i read h ih =>
    have hlength : i < bytes.data.toList.length := by simpa using h
    have hget : bytes.get! i = bytes.data.toList[i] := by
      have hbang : bytes.get! i = bytes.data[i]! := by cases bytes; rfl
      rw [hbang, getElem!_pos bytes.data i h, Array.getElem_toList]
    rw [ih, List.drop_eq_getElem_cons hlength, hget, List.reverse_cons, List.append_assoc]
    rfl
  | case2 i read h =>
    rw [List.drop_eq_nil_of_le (by simpa using h), List.append_nil]

/-- A text is written character by character. -/
theorem encode_eq (s : String) : encode s = s.toList.flatMap utf8EncodeChar := by
  have hbytes : s.toByteArray = s.toList.utf8Encode := by
    rw [← String.toByteArray_ofList, String.ofList_toList]
  rw [encode, ByteArray.toList, toList_loop, String.toUTF8, hbytes, List.utf8Encode]
  simp

/-! ## Nothing is lost by reading -/

/-- The bytes that a piece is made of. -/
def Piece.bytes : Piece → List UInt8
  | .char c => utf8EncodeChar c
  | .broken bytes | .cut bytes => bytes

/-- Inside a character, the bytes seen and their value are those of a character whatever fitting
bytes come next, which are one more than `more`. -/
def Completes : (more : Nat) → (low high : UInt8) → (seen : List UInt8) → (value : Nat) → Prop
  | 0, low, high, seen, value => ∀ b, low ≤ b → b ≤ high →
    utf8EncodeChar (Char.ofNat (value * 0x40 + b.toNat % 0x40)) = (b :: seen).reverse
  | more + 1, low, high, seen, value => ∀ b, low ≤ b → b ≤ high →
    Completes more 0x80 0xBF (b :: seen) (value * 0x40 + b.toNat % 0x40)

namespace State

/-- The bytes seen of the character that the automaton is in. -/
def bytes : State → List UInt8
  | .between => []
  | .inside _ _ _ seen _ => seen.reverse

/-- What holds wherever the automaton gets: no ASCII byte fits inside a character, and bytes that
fit complete one. -/
def OK : State → Prop
  | .between => True
  | .inside left low high seen value => 0x80 ≤ low ∧ Completes (left - 1) low high seen value

end State

theorem val_ofNat {n : Nat} (h : n.isValidChar) : (Char.ofNat n).val.toNat = n := by
  rw [Char.ofNat, dif_pos h]
  rfl

theorem ofNat_eq {n : Nat} {b : UInt8} (h : n = b.toNat) : UInt8.ofNat n = b := by
  rw [h, UInt8.ofNat_toNat]

/-- A byte below U+0080 is a character of its own. -/
theorem utf8EncodeChar_of_lt {b : UInt8} (h : b.toNat < 0x80) :
    utf8EncodeChar (Char.ofNat b.toNat) = [b] := by
  rw [utf8EncodeChar, val_ofNat (Or.inl (by omega)), if_pos (by omega), UInt8.ofNat_toNat]

theorem completes_two {a : UInt8} (h : 0xC2 ≤ a.toNat) (h' : a.toNat < 0xE0) :
    Completes 0 0x80 0xBF [a] (a.toNat % 0x20) := by
  intro b hb hb'
  have hl : 0x80 ≤ b.toNat := hb
  have hr : b.toNat ≤ 0xBF := hb'
  rw [utf8EncodeChar, val_ofNat (Or.inl (by omega)), if_neg (by omega), if_pos (by omega),
    ofNat_eq (b := a) (by omega), ofNat_eq (b := b) (by omega)]
  rfl

/-- Three bytes are a character if the second excludes overlong forms and surrogates. -/
theorem completes_three {a low high : UInt8} (h : 0xE0 ≤ a.toNat) (h' : a.toNat < 0xF0)
    (hlow : 0x80 ≤ low.toNat) (hhigh : high.toNat ≤ 0xBF) (hlong : a.toNat = 0xE0 → 0xA0 ≤ low.toNat)
    (hsurrogate : a.toNat = 0xED → high.toNat ≤ 0x9F) :
    Completes 1 low high [a] (a.toNat % 0x10) := by
  intro b hb hb' c hc hc'
  have hbl : low.toNat ≤ b.toNat := hb
  have hbr : b.toNat ≤ high.toNat := hb'
  have hcl : 0x80 ≤ c.toNat := hc
  have hcr : c.toNat ≤ 0xBF := hc'
  have hvalid : ((a.toNat % 0x10 * 0x40 + b.toNat % 0x40) * 0x40 + c.toNat % 0x40).isValidChar := by
    unfold Nat.isValidChar
    omega
  rw [utf8EncodeChar, val_ofNat hvalid, if_neg (by omega), if_neg (by omega), if_pos (by omega),
    ofNat_eq (b := a) (by omega), ofNat_eq (b := b) (by omega), ofNat_eq (b := c) (by omega)]
  rfl

/-- Four bytes are a character if the second excludes overlong forms and what is beyond the last
code point. -/
theorem completes_four {a low high : UInt8} (h : 0xF0 ≤ a.toNat) (h' : a.toNat < 0xF5)
    (hlow : 0x80 ≤ low.toNat) (hhigh : high.toNat ≤ 0xBF) (hlong : a.toNat = 0xF0 → 0x90 ≤ low.toNat)
    (hlast : a.toNat = 0xF4 → high.toNat ≤ 0x8F) :
    Completes 2 low high [a] (a.toNat % 0x8) := by
  intro b hb hb' c hc hc' d hd hd'
  have hbl : low.toNat ≤ b.toNat := hb
  have hbr : b.toNat ≤ high.toNat := hb'
  have hcl : 0x80 ≤ c.toNat := hc
  have hcr : c.toNat ≤ 0xBF := hc'
  have hdl : 0x80 ≤ d.toNat := hd
  have hdr : d.toNat ≤ 0xBF := hd'
  have hvalid : (((a.toNat % 0x8 * 0x40 + b.toNat % 0x40) * 0x40 + c.toNat % 0x40) * 0x40 +
      d.toNat % 0x40).isValidChar := by
    unfold Nat.isValidChar
    omega
  rw [utf8EncodeChar, val_ofNat hvalid, if_neg (by omega), if_neg (by omega), if_neg (by omega),
    ofNat_eq (b := a) (by omega), ofNat_eq (b := b) (by omega), ofNat_eq (b := c) (by omega),
    ofNat_eq (b := d) (by omega)]
  rfl

/-- Reading a first byte loses nothing and leaves the automaton where it should be. -/
theorem begin_ok (b : UInt8) :
    (begin b).2.OK ∧ (begin b).1.flatMap Piece.bytes ++ (begin b).2.bytes = [b] := by
  have hb : b.toNat < 0x100 := b.toNat_lt
  unfold begin
  simp only
  split
  · next h => exact ⟨trivial, by simp [Piece.bytes, State.bytes, utf8EncodeChar_of_lt h]⟩
  split
  · exact ⟨trivial, rfl⟩
  split
  · exact ⟨⟨by decide, completes_two (by omega) (by omega)⟩, rfl⟩
  split
  · next h => exact ⟨⟨by decide, completes_three (by omega) (by omega) (by decide) (by decide)
      (by intro; decide) (by omega)⟩, rfl⟩
  split
  · next h => exact ⟨⟨by decide, completes_three (by omega) (by omega) (by decide) (by decide)
      (by omega) (by intro; decide)⟩, rfl⟩
  split
  · exact ⟨⟨by decide, completes_three (by omega) (by omega) (by decide) (by decide)
      (by omega) (by omega)⟩, rfl⟩
  split
  · next h => exact ⟨⟨by decide, completes_four (by omega) (by omega) (by decide) (by decide)
      (by intro; decide) (by omega)⟩, rfl⟩
  split
  · exact ⟨⟨by decide, completes_four (by omega) (by omega) (by decide) (by decide)
      (by omega) (by omega)⟩, rfl⟩
  split
  · next h => exact ⟨⟨by decide, completes_four (by omega) (by omega) (by decide) (by decide)
      (by omega) (by intro; decide)⟩, rfl⟩
  · exact ⟨trivial, rfl⟩

/-- Reading a byte loses nothing and leaves the automaton where it should be. -/
theorem step_ok {state : State} (h : state.OK) (b : UInt8) :
    (step state b).2.OK ∧
      (step state b).1.flatMap Piece.bytes ++ (step state b).2.bytes = state.bytes ++ [b] := by
  cases state with
  | between => exact begin_ok b
  | inside left low high seen value =>
    obtain ⟨-, hcompletes⟩ := h
    by_cases hfits : low ≤ b ∧ b ≤ high
    · obtain ⟨hl, hr⟩ := hfits
      by_cases hlast : left ≤ 1
      · have hzero : left - 1 = 0 := by omega
        rw [hzero] at hcompletes
        have hchar := hcompletes b hl hr
        rw [step, if_pos ⟨hl, hr⟩, if_pos hlast]
        refine ⟨trivial, ?_⟩
        simpa [Piece.bytes, State.bytes] using hchar
      · obtain ⟨more, rfl⟩ : ∃ more, left = more + 2 := ⟨left - 2, by omega⟩
        rw [step, if_pos ⟨hl, hr⟩, if_neg hlast]
        exact ⟨⟨by decide, hcompletes b hl hr⟩, by simp [State.bytes]⟩
    · obtain ⟨hok, hbytes⟩ := begin_ok b
      rw [step, if_neg hfits]
      refine ⟨hok, ?_⟩
      simp only [List.flatMap_cons, List.append_assoc, hbytes]
      rfl

theorem run_bytes {state : State} (h : state.OK) (bytes : List UInt8) :
    (run state bytes).flatMap Piece.bytes = state.bytes ++ bytes := by
  induction bytes generalizing state with
  | nil => cases state <;> simp [run, Piece.bytes, State.bytes]
  | cons b bytes ih =>
    obtain ⟨hok, hbytes⟩ := step_ok h b
    rw [run, List.flatMap_append, ih hok, ← List.append_assoc, hbytes, List.append_assoc]
    rfl

/-- The pieces of a byte sequence are made of its bytes, in order. -/
theorem pieces_bytes (bytes : List UInt8) : (pieces bytes).flatMap Piece.bytes = bytes := by
  have hok : State.between.OK := trivial
  exact run_bytes hok bytes

/-! ## What is written is read back -/

theorem run_cons (state : State) (b : UInt8) (bytes : List UInt8) :
    run state (b :: bytes) = (step state b).1 ++ run (step state b).2 bytes := by
  cases state <;> rfl

/-- A byte that is not the last of its character. -/
theorem run_inside {left : Nat} {low high b : UInt8} {seen : List UInt8} {value : Nat}
    (hleft : 2 ≤ left) (hlow : low.toNat ≤ b.toNat) (hhigh : b.toNat ≤ high.toNat)
    (bytes : List UInt8) :
    run (.inside left low high seen value) (b :: bytes) =
      run (.inside (left - 1) 0x80 0xBF (b :: seen) (value * 0x40 + b.toNat % 0x40)) bytes := by
  rw [run_cons, step, if_pos ⟨hlow, hhigh⟩, if_neg (by omega)]
  rfl

/-- The last byte of a character. -/
theorem run_last {low high b : UInt8} {seen : List UInt8} {value : Nat} {c : Char}
    (hlow : low.toNat ≤ b.toNat) (hhigh : b.toNat ≤ high.toNat)
    (hc : value * 0x40 + b.toNat % 0x40 = c.toNat) (bytes : List UInt8) :
    run (.inside 1 low high seen value) (b :: bytes) = .char c :: run .between bytes := by
  rw [run_cons, step, if_pos ⟨hlow, hhigh⟩, if_pos (by omega), hc, Char.ofNat_toNat]
  rfl

theorem begin_two {a : UInt8} (h : 0xC2 ≤ a.toNat) (h' : a.toNat < 0xE0) :
    begin a = ([], .inside 1 0x80 0xBF [a] (a.toNat % 0x20)) := by
  unfold begin
  simp only
  rw [if_neg (by omega), if_neg (by omega), if_pos h']

/-- The first byte of three, in front of a second one that excludes overlong forms and
surrogates. -/
theorem begin_three {a b : UInt8} (h : 0xE0 ≤ a.toNat) (h' : a.toNat < 0xF0)
    (hb : 0x80 ≤ b.toNat) (hb' : b.toNat ≤ 0xBF) (hlong : a.toNat = 0xE0 → 0xA0 ≤ b.toNat)
    (hsurrogate : a.toNat = 0xED → b.toNat ≤ 0x9F) :
    ∃ low high : UInt8, low.toNat ≤ b.toNat ∧ b.toNat ≤ high.toNat ∧
      begin a = ([], .inside 2 low high [a] (a.toNat % 0x10)) := by
  unfold begin
  simp only
  rw [if_neg (by omega), if_neg (by omega), if_neg (by omega)]
  split
  · next he0 => exact ⟨0xA0, 0xBF, hlong he0, hb', rfl⟩
  split
  · next hed => exact ⟨0x80, 0x9F, hb, hsurrogate hed, rfl⟩
  · exact ⟨0x80, 0xBF, hb, hb', rfl⟩

/-- The first byte of four, in front of a second one that excludes overlong forms and what is beyond
the last code point. -/
theorem begin_four {a b : UInt8} (h : 0xF0 ≤ a.toNat) (h' : a.toNat < 0xF5)
    (hb : 0x80 ≤ b.toNat) (hb' : b.toNat ≤ 0xBF) (hlong : a.toNat = 0xF0 → 0x90 ≤ b.toNat)
    (hlast : a.toNat = 0xF4 → b.toNat ≤ 0x8F) :
    ∃ low high : UInt8, low.toNat ≤ b.toNat ∧ b.toNat ≤ high.toNat ∧
      begin a = ([], .inside 3 low high [a] (a.toNat % 0x8)) := by
  unfold begin
  simp only
  rw [if_neg (by omega), if_neg (by omega), if_neg (by omega), if_neg (by omega),
    if_neg (by omega), if_neg (by omega)]
  split
  · next hf0 => exact ⟨0x90, 0xBF, hlong hf0, hb', rfl⟩
  split
  · exact ⟨0x80, 0xBF, hb, hb', rfl⟩
  · have hf4 : a.toNat = 0xF4 := by omega
    rw [if_pos hf4]
    exact ⟨0x80, 0x8F, hb, hlast hf4, rfl⟩

theorem run_one {a : UInt8} {c : Char} (ha : a.toNat < 0x80) (hc : a.toNat = c.toNat)
    (bytes : List UInt8) : run .between (a :: bytes) = .char c :: run .between bytes := by
  rw [run_cons, step, begin, if_pos ha, hc, Char.ofNat_toNat]
  rfl

theorem run_two {a b : UInt8} {c : Char} (ha : 0xC2 ≤ a.toNat) (ha' : a.toNat < 0xE0)
    (hb : 0x80 ≤ b.toNat) (hb' : b.toNat ≤ 0xBF)
    (hc : a.toNat % 0x20 * 0x40 + b.toNat % 0x40 = c.toNat) (bytes : List UInt8) :
    run .between (a :: b :: bytes) = .char c :: run .between bytes := by
  have hlow : (0x80 : UInt8).toNat ≤ b.toNat := hb
  have hhigh : b.toNat ≤ (0xBF : UInt8).toNat := hb'
  rw [run_cons, step, begin_two ha ha', List.nil_append, run_last hlow hhigh hc]

theorem run_three {a b d : UInt8} {c : Char} (ha : 0xE0 ≤ a.toNat) (ha' : a.toNat < 0xF0)
    (hb : 0x80 ≤ b.toNat) (hb' : b.toNat ≤ 0xBF) (hd : 0x80 ≤ d.toNat) (hd' : d.toNat ≤ 0xBF)
    (hlong : a.toNat = 0xE0 → 0xA0 ≤ b.toNat) (hsurrogate : a.toNat = 0xED → b.toNat ≤ 0x9F)
    (hc : (a.toNat % 0x10 * 0x40 + b.toNat % 0x40) * 0x40 + d.toNat % 0x40 = c.toNat)
    (bytes : List UInt8) :
    run .between (a :: b :: d :: bytes) = .char c :: run .between bytes := by
  obtain ⟨low, high, hlow, hhigh, hbegin⟩ := begin_three ha ha' hb hb' hlong hsurrogate
  have hdl : (0x80 : UInt8).toNat ≤ d.toNat := hd
  have hdr : d.toNat ≤ (0xBF : UInt8).toNat := hd'
  rw [run_cons, step, hbegin, List.nil_append, run_inside (by omega) hlow hhigh,
    run_last hdl hdr hc]

theorem run_four {a b d e : UInt8} {c : Char} (ha : 0xF0 ≤ a.toNat) (ha' : a.toNat < 0xF5)
    (hb : 0x80 ≤ b.toNat) (hb' : b.toNat ≤ 0xBF) (hd : 0x80 ≤ d.toNat) (hd' : d.toNat ≤ 0xBF)
    (he : 0x80 ≤ e.toNat) (he' : e.toNat ≤ 0xBF) (hlong : a.toNat = 0xF0 → 0x90 ≤ b.toNat)
    (hlast : a.toNat = 0xF4 → b.toNat ≤ 0x8F)
    (hc : ((a.toNat % 0x8 * 0x40 + b.toNat % 0x40) * 0x40 + d.toNat % 0x40) * 0x40 +
      e.toNat % 0x40 = c.toNat) (bytes : List UInt8) :
    run .between (a :: b :: d :: e :: bytes) = .char c :: run .between bytes := by
  obtain ⟨low, high, hlow, hhigh, hbegin⟩ := begin_four ha ha' hb hb' hlong hlast
  have hdl : (0x80 : UInt8).toNat ≤ d.toNat := hd
  have hdr : d.toNat ≤ (0xBF : UInt8).toNat := hd'
  have hel : (0x80 : UInt8).toNat ≤ e.toNat := he
  have her : e.toNat ≤ (0xBF : UInt8).toNat := he'
  rw [run_cons, step, hbegin, List.nil_append, run_inside (by omega) hlow hhigh,
    run_inside (by omega) hdl hdr, run_last hel her hc]

theorem toNat_ofNat {n : Nat} (h : n < 0x100) : (UInt8.ofNat n).toNat = n :=
  UInt8.toNat_ofNat_of_lt' h

/-- A written character is read back. -/
theorem run_utf8EncodeChar (c : Char) (bytes : List UInt8) :
    run .between (utf8EncodeChar c ++ bytes) = .char c :: run .between bytes := by
  have hvalid : c.toNat < 0xD800 ∨ 0xDFFF < c.toNat ∧ c.toNat < 0x110000 := c.valid
  unfold utf8EncodeChar
  simp only [Char.toNat_val]
  split
  · have ha : (UInt8.ofNat c.toNat).toNat = c.toNat := toNat_ofNat (by omega)
    exact run_one (by omega) ha bytes
  split
  · have ha := toNat_ofNat (n := c.toNat / 64 % 0x20 + 0xC0) (by omega)
    have hb := toNat_ofNat (n := c.toNat % 0x40 + 0x80) (by omega)
    exact run_two (by omega) (by omega) (by omega) (by omega) (by omega) bytes
  split
  · have ha := toNat_ofNat (n := c.toNat / 4096 % 0x10 + 0xE0) (by omega)
    have hb := toNat_ofNat (n := c.toNat / 64 % 0x40 + 0x80) (by omega)
    have hd := toNat_ofNat (n := c.toNat % 0x40 + 0x80) (by omega)
    exact run_three (by omega) (by omega) (by omega) (by omega) (by omega) (by omega) (by omega)
      (by omega) (by omega) bytes
  · have ha := toNat_ofNat (n := c.toNat / 262144 % 0x08 + 0xF0) (by omega)
    have hb := toNat_ofNat (n := c.toNat / 4096 % 0x40 + 0x80) (by omega)
    have hd := toNat_ofNat (n := c.toNat / 64 % 0x40 + 0x80) (by omega)
    have he := toNat_ofNat (n := c.toNat % 0x40 + 0x80) (by omega)
    exact run_four (by omega) (by omega) (by omega) (by omega) (by omega) (by omega) (by omega)
      (by omega) (by omega) (by omega) (by omega) bytes

theorem pieces_flatMap (cs : List Char) : pieces (cs.flatMap utf8EncodeChar) = cs.map .char := by
  induction cs with
  | nil => rfl
  | cons c cs ih =>
    rw [List.flatMap_cons, pieces, run_utf8EncodeChar, List.map_cons, ← ih]
    rfl

theorem charsOf_eq_ok_iff {index : Nat} {pieces : List Piece} {cs : List Char} :
    charsOf index pieces = .ok cs ↔ pieces = cs.map .char := by
  induction pieces generalizing index cs with
  | nil => cases cs <;> simp [charsOf]
  | cons piece pieces ih =>
    cases piece with
    | char c =>
      have hind (cs : List Char) := @ih (index + c.utf8Size) cs
      rw [charsOf]
      cases hrest : charsOf (index + c.utf8Size) pieces with
      | error fault => cases cs <;> simp [Except.map, ← hind, hrest]
      | ok rest =>
        have hpieces := ih.mp hrest
        have hinjective : Function.Injective Piece.char := fun _ _ h => Piece.char.inj h
        cases cs <;> simp [Except.map, hpieces, List.map_inj_right hinjective]
    | broken bytes => cases cs <;> simp [charsOf]
    | cut bytes => cases cs <;> simp [charsOf]

/-- **Bytes are a text exactly when they are what the text is written as.** -/
theorem decode_eq_ok_iff {bytes : List UInt8} {s : String} :
    decode bytes = .ok s ↔ encode s = bytes := by
  have hpieces : charsOf 0 (pieces bytes) = .ok s.toList ↔ encode s = bytes := by
    rw [charsOf_eq_ok_iff, encode_eq]
    constructor
    · intro h
      rw [← pieces_bytes bytes, h, List.flatMap_map]
      rfl
    · intro h
      rw [← h, pieces_flatMap]
  rw [← hpieces, decode]
  cases charsOf 0 (pieces bytes) with
  | error fault => simp [Except.map]
  | ok cs => simp [Except.map, String.ext_iff]

theorem decode_encode (s : String) : decode (encode s) = .ok s := decode_eq_ok_iff.mpr rfl

theorem encode_injective {s t : String} (h : encode s = encode t) : s = t := by
  have hs := decode_eq_ok_iff.mpr h
  rw [decode_encode] at hs
  exact (Except.ok.inj hs).symm

/-! ## Behind an ASCII byte -/

/-- A piece that has turned out not to be the last: what seemed cut off is broken. -/
def Piece.settled : Piece → Piece
  | .cut bytes => .broken bytes
  | piece => piece

theorem begin_settled (b : UInt8) : (begin b).1.map Piece.settled = (begin b).1 := by
  unfold begin
  simp only
  repeat' split
  all_goals rfl

theorem step_settled (state : State) (b : UInt8) :
    (step state b).1.map Piece.settled = (step state b).1 := by
  cases state with
  | between => exact begin_settled b
  | inside left low high seen value =>
    by_cases hfits : low ≤ b ∧ b ≤ high
    · rw [step, if_pos hfits]
      by_cases hlast : left ≤ 1
      · rw [if_pos hlast]
        rfl
      · rw [if_neg hlast]
        rfl
    · rw [step, if_neg hfits, List.map_cons, begin_settled]
      rfl

/-- An ASCII byte ends whatever stands in front of it. -/
theorem run_append_ascii {state : State} (h : state.OK) {b : UInt8} (hb : b.toNat < 0x80)
    (bytes rest : List UInt8) :
    run state (bytes ++ b :: rest) =
      (run state bytes).map Piece.settled ++ run .between (b :: rest) := by
  induction bytes generalizing state with
  | nil =>
    cases state with
    | between => rfl
    | inside left low high seen value =>
      have hlow : ¬(low ≤ b ∧ b ≤ high) := by
        intro hfits
        have hl : 0x80 ≤ low.toNat := h.1
        have hr : low.toNat ≤ b.toNat := hfits.1
        omega
      have hstep : step (.inside left low high seen value) b =
          (.broken seen.reverse :: (begin b).1, (begin b).2) := by rw [step, if_neg hlow]
      rw [List.nil_append, run_cons, run_cons, hstep]
      rfl
  | cons a bytes ih =>
    rw [List.cons_append, run_cons, run_cons, ih (step_ok h a).1, List.map_append, step_settled,
      List.append_assoc]

theorem charsOf_append (index : Nat) (pieces : List Piece) (cs : List Char) :
    charsOf index (pieces ++ cs.map .char) = (charsOf index pieces).map (· ++ cs) := by
  induction pieces generalizing index with
  | nil => exact charsOf_eq_ok_iff.mpr rfl
  | cons piece pieces ih =>
    cases piece with
    | char c =>
      rw [List.cons_append, charsOf, charsOf, ih]
      cases charsOf (index + c.utf8Size) pieces <;> rfl
    | broken bytes => rfl
    | cut bytes => rfl

/-- What comes in front of a text that starts with an ASCII character is read the same way whatever
the text is. -/
theorem decode_append {t : String} {b : UInt8} {rest : List UInt8} (ht : encode t = b :: rest)
    (hb : b.toNat < 0x80) (bytes : List UInt8) :
    decode (bytes ++ encode t) =
      (charsOf 0 ((pieces bytes).map Piece.settled)).map fun cs => String.ofList cs ++ t := by
  have hpieces : pieces (bytes ++ encode t) =
      (pieces bytes).map Piece.settled ++ t.toList.map .char := by
    rw [← pieces_flatMap, ← encode_eq, ht]
    have hok : State.between.OK := trivial
    exact run_append_ascii hok hb bytes rest
  rw [decode, hpieces, charsOf_append]
  cases charsOf 0 ((pieces bytes).map Piece.settled) with
  | error fault => rfl
  | ok cs => simp [Except.map]

/-! ## Control characters -/

theorem le_of_mem_utf8EncodeChar {c : Char} {b : UInt8} (hc : 0x20 ≤ c.toNat)
    (hb : b ∈ utf8EncodeChar c) : 0x20 ≤ b.toNat := by
  unfold utf8EncodeChar at hb
  simp only [Char.toNat_val] at hb
  split at hb
  · obtain rfl := List.mem_singleton.mp hb
    rw [toNat_ofNat (by omega)]
    exact hc
  · -- All bytes of a longer character are above the ASCII range.
    have hhigh : ∃ n, b = UInt8.ofNat n ∧ 0x80 ≤ n ∧ n < 0x100 := by
      split at hb
      · simp only [List.mem_cons, List.not_mem_nil, or_false] at hb
        rcases hb with rfl | rfl <;> exact ⟨_, rfl, by omega, by omega⟩
      split at hb
      · simp only [List.mem_cons, List.not_mem_nil, or_false] at hb
        rcases hb with rfl | rfl | rfl <;> exact ⟨_, rfl, by omega, by omega⟩
      · simp only [List.mem_cons, List.not_mem_nil, or_false] at hb
        rcases hb with rfl | rfl | rfl | rfl <;> exact ⟨_, rfl, by omega, by omega⟩
    obtain ⟨n, rfl, hl, hr⟩ := hhigh
    rw [toNat_ofNat hr]
    omega

/-- A text without control characters has no bytes of such. -/
theorem le_of_mem_encode {s : String} (hs : ∀ c ∈ s.toList, 0x20 ≤ c.toNat) {b : UInt8}
    (hb : b ∈ encode s) : 0x20 ≤ b.toNat := by
  rw [encode_eq] at hb
  obtain ⟨c, hc, hbc⟩ := List.mem_flatMap.mp hb
  exact le_of_mem_utf8EncodeChar (hs c hc) hbc

end GraphGateway.Text.Utf8
