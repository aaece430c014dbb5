/-
In text on several lines, no newline is followed by a back-tick.

Newlines stand between tokens only, since strings escape theirs, and behind each of them come spaces
or a closing bracket (`isUnfenced_indented`). So a line of back-ticks behind such a text is the
first one, whatever the strings hold.
-/
import Mathlib.Data.List.Chain
import GraphGateway.Proofs.Json.Printed

namespace GraphGateway.Json

/-- No newline is followed by a back-tick. -/
def IsUnfenced (cs : List Char) : Prop := cs.IsChain fun c d => c = '\n' → d ≠ '`'

theorem head?_cons_ne {c : Char} (hc : c ≠ '`') (cs : List Char) : (c :: cs).head? ≠ some '`' :=
  fun h => hc (Option.some.inj h)

namespace IsUnfenced

variable {c : Char} {cs ds : List Char}

theorem cons (hc : c ≠ '\n') (h : IsUnfenced cs) : IsUnfenced (c :: cs) :=
  List.isChain_cons.mpr ⟨fun _ _ heq => absurd heq hc, h⟩

theorem of_isPrinted (h : IsPrinted cs) : IsUnfenced cs := by
  induction cs with
  | nil => exact .nil
  | cons c cs ih =>
    obtain ⟨hc, hcs⟩ := isPrinted_cons.mp h
    have hne : c ≠ '\n' := by
      rintro rfl
      exact absurd hc (by decide)
    exact .cons hne (ih hcs)

/-- Two texts, the second of which does not begin with a back-tick. -/
theorem append (h : IsUnfenced cs) (h' : IsUnfenced ds) (hd : ds.head? ≠ some '`') :
    IsUnfenced (cs ++ ds) :=
  List.isChain_append.mpr ⟨h, h', fun _ _ _ hmem _ heq => hd (heq ▸ hmem)⟩

/-- Two texts, the first of which does not end with a newline. -/
theorem append_of_last (h : IsUnfenced cs) (h' : IsUnfenced ds) (hc : cs.getLast? ≠ some '\n') :
    IsUnfenced (cs ++ ds) :=
  List.isChain_append.mpr ⟨h, h', fun _ hmem _ _ heq => absurd (heq ▸ hmem) hc⟩

theorem lineBreak (depth : Nat) : IsUnfenced (Spacing.indented.lineBreak depth) := by
  refine List.isChain_cons.mpr ⟨fun d hd _ heq => ?_, of_isPrinted (.replicate _ (by decide))⟩
  have hmem := List.mem_of_mem_head? hd
  rw [List.eq_of_mem_replicate hmem] at heq
  exact absurd heq (by decide)

/-- Inside a container, a line does not begin where the text before it ends. -/
theorem lineBreak_append (depth : Nat) (h : IsUnfenced cs) :
    IsUnfenced (Spacing.indented.lineBreak (depth + 1) ++ cs) := by
  refine (lineBreak (depth + 1)).append_of_last h ?_
  simp [Spacing.lineBreak, List.getLast?_cons, List.getLast?_replicate]

theorem colon_append (h : IsUnfenced cs) : IsUnfenced (Spacing.indented.colon ++ cs) :=
  append_of_last (of_isPrinted (.of_all rfl)) h (by decide)

/-- A closing bracket on a line of its own. -/
theorem close (depth : Nat) (h : IsUnfenced cs) (hc : c ≠ '`') :
    IsUnfenced (cs ++ Spacing.indented.lineBreak depth ++ [c]) :=
  (h.append (lineBreak depth) (head?_cons_ne (by decide) _)).append (.singleton c)
    (head?_cons_ne hc [])

end IsUnfenced

theorem head?_writeItems (sp : Spacing) (depth : Nat) (items : List Json) :
    (writeItems sp depth items).head? ≠ some '`' := by
  cases items with
  | nil => exact fun h => nomatch h
  | cons => exact head?_cons_ne (by decide) _

theorem head?_writeMembers (sp : Spacing) (depth : Nat) (members : Members) :
    (writeMembers sp depth members).head? ≠ some '`' := by
  cases members with
  | nil => exact fun h => nomatch h
  | cons => exact head?_cons_ne (by decide) _

theorem isUnfenced_stringText (s : String) : IsUnfenced (stringText s) :=
  .of_isPrinted (isPrinted_stringText s)

mutual

theorem isUnfenced_write : ∀ (depth : Nat) (j : Json), IsUnfenced (write .indented depth j)
  | _, .null => .of_isPrinted (.of_all rfl)
  | _, .bool true => .of_isPrinted (.of_all rfl)
  | _, .bool false => .of_isPrinted (.of_all rfl)
  | _, .number n => .of_isPrinted (isPrinted_numeralText n)
  | _, .string s => isUnfenced_stringText s
  | _, .array [] => .of_isPrinted (.of_all rfl)
  | depth, .array (item :: items) => by
    have hitem := (isUnfenced_write (depth + 1) item).lineBreak_append depth
    have hitems := isUnfenced_writeItems depth items
    rw [write]
    have hall := hitem.append hitems (head?_writeItems _ _ items)
    exact .cons (by decide) (hall.close depth (by decide))
  | _, .object [] => .of_isPrinted (.of_all rfl)
  | depth, .object ((name, value) :: members) => by
    have hname := (isUnfenced_stringText name).lineBreak_append depth
    have hvalue := (isUnfenced_write (depth + 1) value).colon_append
    have hmembers := isUnfenced_writeMembers depth members
    have hmember := hname.append hvalue (head?_cons_ne (by decide) _)
    have hall := hmember.append hmembers (head?_writeMembers _ _ members)
    rw [← List.append_assoc] at hall
    rw [write]
    exact .cons (by decide) (hall.close depth (by decide))

theorem isUnfenced_writeItems :
    ∀ (depth : Nat) (items : List Json), IsUnfenced (writeItems .indented (depth + 1) items)
  | _, [] => .nil
  | depth, item :: items => by
    have hitem := (isUnfenced_write (depth + 1) item).lineBreak_append depth
    have hitems := isUnfenced_writeItems depth items
    rw [writeItems]
    exact .cons (by decide) (hitem.append hitems (head?_writeItems _ _ items))

theorem isUnfenced_writeMembers :
    ∀ (depth : Nat) (members : Members), IsUnfenced (writeMembers .indented (depth + 1) members)
  | _, [] => .nil
  | depth, (name, value) :: members => by
    have hname := (isUnfenced_stringText name).lineBreak_append depth
    have hvalue := (isUnfenced_write (depth + 1) value).colon_append
    have hmembers := isUnfenced_writeMembers depth members
    have hmember := hname.append hvalue (head?_cons_ne (by decide) _)
    have hall := hmember.append hmembers (head?_writeMembers _ _ members)
    rw [← List.append_assoc] at hall
    rw [writeMembers]
    exact .cons (by decide) hall

end

/-- No newline in a text on several lines is followed by a back-tick, whatever the strings hold. -/
theorem isUnfenced_indented (j : Json) : IsUnfenced j.indented.toList := by
  rw [indented, String.toList_ofList]
  exact isUnfenced_write 0 j

end GraphGateway.Json
