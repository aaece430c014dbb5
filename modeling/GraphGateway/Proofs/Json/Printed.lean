/-
Compact text holds no control characters.

Strings are the only place where a value may hold characters below U+0020, and all of these are
escaped; digits, signs and brackets are none of them. So compact text fits on a line
(`isPrinted_compact`).
-/
import GraphGateway.Json.Printer

namespace GraphGateway.Json

/-- No character is below U+0020. -/
def IsPrinted (cs : List Char) : Prop := ∀ c ∈ cs, 0x20 ≤ c.toNat

theorem isPrinted_nil : IsPrinted [] := List.forall_mem_nil _

theorem isPrinted_cons {c : Char} {cs : List Char} :
    IsPrinted (c :: cs) ↔ 0x20 ≤ c.toNat ∧ IsPrinted cs := List.forall_mem_cons

theorem isPrinted_append {cs ds : List Char} : IsPrinted (cs ++ ds) ↔ IsPrinted cs ∧ IsPrinted ds :=
  List.forall_mem_append

namespace IsPrinted

variable {c : Char} {cs ds : List Char}

theorem cons (hc : 0x20 ≤ c.toNat) (h : IsPrinted cs) : IsPrinted (c :: cs) :=
  isPrinted_cons.mpr ⟨hc, h⟩

theorem append (h : IsPrinted cs) (h' : IsPrinted ds) : IsPrinted (cs ++ ds) :=
  isPrinted_append.mpr ⟨h, h'⟩

theorem replicate (n : Nat) (hc : 0x20 ≤ c.toNat) : IsPrinted (List.replicate n c) := by
  intro d hd
  rw [List.eq_of_mem_replicate hd]
  exact hc

theorem of_subset (h : IsPrinted cs) (hs : ∀ d ∈ ds, d ∈ cs) : IsPrinted ds :=
  fun d hd => h d (hs d hd)

/-- For texts that are written out, this is a matter of looking at each character. -/
theorem of_all (h : cs.all fun c => decide (0x20 ≤ c.toNat)) : IsPrinted cs := by
  simpa [IsPrinted] using h

end IsPrinted

/-! ## Numbers -/

theorem isPrinted_digitChars (n : Nat) : IsPrinted (Number.digitChars n) := by
  intro c hc
  have hdigit := Nat.isDigit_of_mem_toDigits (by decide) (by decide) hc
  simp only [Char.isDigit, Bool.and_eq_true, decide_eq_true_eq] at hdigit
  have hlow : 48 ≤ c.toNat := hdigit.1
  omega

theorem isPrinted_intText (n : Int) : IsPrinted (Number.intText n) := by
  unfold Number.intText
  refine .append ?_ (isPrinted_digitChars _)
  split
  · exact .of_all rfl
  · exact isPrinted_nil

theorem isPrinted_positionalText (pointZero : Bool) (d : Number.Decimal) :
    IsPrinted (d.positionalText pointZero) := by
  have hdigits := isPrinted_digitChars d.digits
  have hzeros (n : Nat) : IsPrinted (List.replicate n '0') := .replicate n (by decide)
  unfold Number.Decimal.positionalText
  simp only
  split
  · refine (hdigits.append (hzeros _)).append ?_
    split
    · exact .of_all rfl
    · exact isPrinted_nil
  · have hpadded := (hzeros ((-d.exponent).toNat + 1 - (Number.digitChars d.digits).length)).append
      hdigits
    refine (IsPrinted.append ?_ (.of_all rfl)).append ?_
    · exact hpadded.of_subset fun c hc => List.mem_of_mem_take hc
    · exact hpadded.of_subset fun c hc => List.mem_of_mem_drop hc

theorem isPrinted_scientificText (d : Number.Decimal) : IsPrinted d.scientificText := by
  have hdigits := isPrinted_digitChars d.digits
  unfold Number.Decimal.scientificText
  simp only
  refine ((IsPrinted.append ?_ ?_).append ?_).append (isPrinted_digitChars _)
  · exact hdigits.of_subset fun c hc => List.mem_of_mem_take hc
  · split
    · exact isPrinted_nil
    · exact .cons (by decide) (hdigits.of_subset fun c hc => List.mem_of_mem_drop hc)
  · split <;> exact .of_all rfl

theorem isPrinted_layout {f : Number.Format} (l : Number.Layout) (x : Number.Binary f) :
    IsPrinted (l.text x) := by
  have hsign : IsPrinted (if x.negative then ['-'] else []) := by
    split
    · exact .of_all rfl
    · exact isPrinted_nil
  unfold Number.Layout.text
  split
  · exact .of_all rfl
  · exact hsign.append (.of_all rfl)
  · refine hsign.append ?_
    unfold Number.Layout.decimalText
    split
    · exact isPrinted_positionalText _ _
    · exact isPrinted_scientificText _

theorem isPrinted_numeralText (n : Numeral) : IsPrinted (numeralText n) := by
  cases n with
  | int n => exact isPrinted_intText n
  | double x => exact isPrinted_layout _ x

/-! ## Strings -/

theorem isPrinted_escapeChar (c : Char) : IsPrinted (escapeChar c) := by
  have hhex : ∀ n < 16, 0x20 ≤ (Nat.digitChar n).toNat := by decide
  unfold escapeChar
  split
  · exact .of_all rfl
  split
  · exact .of_all rfl
  split
  · next h => exact .cons h isPrinted_nil
  next h =>
    have hhigh := hhex (c.toNat / 16) (by omega)
    have hlow := hhex (c.toNat % 16) (by omega)
    repeat' split
    any_goals exact .of_all rfl
    have hstart : IsPrinted ['\\', 'u', '0', '0'] := .of_all rfl
    exact hstart.append (.cons hhigh (.cons hlow isPrinted_nil))

theorem isPrinted_stringText (s : String) : IsPrinted (stringText s) := by
  refine .cons (by decide) (IsPrinted.append ?_ (.of_all rfl))
  intro c hc
  obtain ⟨d, -, hd⟩ := List.mem_flatMap.mp hc
  exact isPrinted_escapeChar d c hd

/-! ## Values -/

mutual

theorem isPrinted_write : ∀ (depth : Nat) (j : Json), IsPrinted (write .compact depth j)
  | _, .null => .of_all rfl
  | _, .bool true => .of_all rfl
  | _, .bool false => .of_all rfl
  | _, .number n => isPrinted_numeralText n
  | _, .string s => isPrinted_stringText s
  | _, .array [] => .of_all rfl
  | depth, .array (item :: items) => by
    have hitem := isPrinted_write (depth + 1) item
    have hitems := isPrinted_writeItems (depth + 1) items
    simp only [write, Spacing.lineBreak, List.nil_append, List.append_nil]
    exact .cons (by decide) ((hitem.append hitems).append (.of_all rfl))
  | _, .object [] => .of_all rfl
  | depth, .object ((name, value) :: members) => by
    have hvalue := isPrinted_write (depth + 1) value
    have hmembers := isPrinted_writeMembers (depth + 1) members
    have hcolon : IsPrinted [':'] := .of_all rfl
    have hname := (isPrinted_stringText name).append hcolon
    simp only [write, Spacing.lineBreak, Spacing.colon, List.nil_append, List.append_nil]
    exact .cons (by decide) (((hname.append hvalue).append hmembers).append (.of_all rfl))

theorem isPrinted_writeItems :
    ∀ (depth : Nat) (items : List Json), IsPrinted (writeItems .compact depth items)
  | _, [] => isPrinted_nil
  | depth, item :: items => by
    have hitem := isPrinted_write depth item
    have hitems := isPrinted_writeItems depth items
    simp only [writeItems, Spacing.lineBreak, List.nil_append]
    exact .cons (by decide) (hitem.append hitems)

theorem isPrinted_writeMembers :
    ∀ (depth : Nat) (members : Members), IsPrinted (writeMembers .compact depth members)
  | _, [] => isPrinted_nil
  | depth, (name, value) :: members => by
    have hvalue := isPrinted_write depth value
    have hmembers := isPrinted_writeMembers depth members
    have hcolon : IsPrinted [':'] := .of_all rfl
    have hname := (isPrinted_stringText name).append hcolon
    simp only [writeMembers, Spacing.lineBreak, Spacing.colon, List.nil_append]
    exact .cons (by decide) ((hname.append hvalue).append hmembers)

end

/-- Compact text holds no control characters, whatever the strings hold. -/
theorem isPrinted_compact (j : Json) : IsPrinted j.compact.toList := by
  rw [compact, String.toList_ofList]
  exact isPrinted_write 0 j

end GraphGateway.Json
