/-
Serving that is cut short.

A sink may take no more, and a source may fail where its input would end. Either way what is written
is the front of what would have been written, and what is executed and counted belongs to a front of
the lines. For a sink that is full these are the lines up to the first whose response does not fit
(`Server.answerLines_overflows`); for a source that fails, the lines that have been ended.
-/
import GraphGateway.Proofs.Protocol.Framing
import GraphGateway.Proofs.Protocol.Succession

namespace GraphGateway.Protocol

namespace Server

variable (service : Service) (earlier : List String)

/-! ## One line into a sink -/

section Step

variable {now : Calendar.Moment} {line : List UInt8} {arrivals : List Arrival}
  (atEnd : Option Failure)

/-- The answer to a line fits, and the other lines are answered behind it. -/
theorem answerLines_step {room : Option Nat} {d : Effect Delivery}
    (hfits : room.all ((framedEffect service now earlier line).value.length ≤ ·) = true)
    (hd : (answerLines service atEnd
        (room.map (· - (framedEffect service now earlier line).value.length)) arrivals).Has
      (earlier ++ (framedEffect service now earlier line).statements) d) :
    (answerLines service atEnd room ((now, line) :: arrivals)).Has earlier
      { value := ⟨(framedEffect service now earlier line).value ++ d.value.written, d.value.failure⟩
        counted := (framedEffect service now earlier line).counted + d.counted
        statements := (framedEffect service now earlier line).statements ++ d.statements } := by
  have hline := handleBytes_has service now earlier line
  unfold answerLines
  cases hvalue : (lineEffect service now earlier line).value with
  | none =>
    simp only [Serving.Has, hvalue] at hline
    simp only [framedEffect, hvalue, frame, List.length_nil, Nat.sub_zero, Option.map_id_fun',
      id_eq] at hd
    simp only [framedEffect, hvalue, frame, List.nil_append]
    exact hline.bind hd
  | some response =>
    simp only [Serving.Has, hvalue] at hline
    simp only [framedEffect, hvalue, frame] at hfits hd ⊢
    refine hline.bind ?_
    simp only [hfits, if_true]
    exact .of_eq (Stats.add_zero _) (hd.before (Serving.Gives.pure _ _))

/-- The answer to a line does not fit. -/
theorem answerLines_full {room : Nat}
    (hfull : room < (framedEffect service now earlier line).value.length) :
    (answerLines service atEnd (some room) ((now, line) :: arrivals)).Has earlier
      { value := ⟨(framedEffect service now earlier line).value.take room, some (.io sinkFull)⟩
        counted := (framedEffect service now earlier line).counted
        statements := (framedEffect service now earlier line).statements } := by
  have hline := handleBytes_has service now earlier line
  unfold answerLines
  cases hvalue : (lineEffect service now earlier line).value with
  | none =>
    simp only [framedEffect, hvalue, frame] at hfull
    exact absurd hfull (Nat.not_lt_zero room)
  | some response =>
    simp only [Serving.Has, hvalue] at hline
    simp only [framedEffect, hvalue, frame] at hfull ⊢
    have hnot : (some room).all
        ((Text.Utf8.encode response.text ++ [newline]).length ≤ ·) = false := by
      rw [Option.all_some, decide_eq_false_iff_not]
      omega
    refine .of_eq (Stats.add_zero _) (hline.before ?_)
    simp only [hnot]
    exact Serving.Gives.pure _ _

end Step

/-! ## Sinks that are full -/

/-- Into a sink that takes all responses, all lines are answered. -/
theorem answerLines_fits (atEnd : Option Failure) {arrivals : List Arrival} {room : Option Nat}
    (h : room.all ((linesEffect service earlier arrivals).value.length ≤ ·) = true) :
    (answerLines service atEnd room arrivals).Has earlier
      { value := ⟨(linesEffect service earlier arrivals).value, atEnd⟩
        counted := (linesEffect service earlier arrivals).counted
        statements := (linesEffect service earlier arrivals).statements } := by
  induction arrivals generalizing earlier room with
  | nil => exact Serving.Gives.pure _ earlier
  | cons arrival arrivals ih =>
    simp only [linesEffect, Effect.append_def, List.length_append, Option.all_eq_true,
      decide_eq_true_iff] at h
    refine answerLines_step service earlier atEnd ?_ (ih _ ?_)
    · simp only [Option.all_eq_true, decide_eq_true_iff]
      intro n hn
      exact Nat.le_trans (Nat.le_add_right _ _) (h n hn)
    · simp only [Option.all_map, Option.all_eq_true, decide_eq_true_iff]
      intro n hn
      exact Nat.le_sub_of_add_le' (h n hn)

/-- Into a sink that takes less, lines are handled up to the first whose response does not fit, of
which the front is written that does. -/
theorem answerLines_overflows {clock : Clock} {lines : List (List UInt8)} {room : Nat}
    (h : room < (linesEffect service earlier (clock.arrivals lines)).value.length) :
    ∃ before last behind, lines = before ++ last :: behind ∧
      (linesEffect service earlier (clock.arrivals before)).value.length ≤ room ∧
      room < (linesEffect service earlier (clock.arrivals (before ++ [last]))).value.length ∧
      ∀ atEnd, (answerLines service atEnd (some room) (clock.arrivals lines)).Has earlier
        { value := ⟨(linesEffect service earlier (clock.arrivals lines)).value.take room,
            some (.io sinkFull)⟩
          counted := (linesEffect service earlier (clock.arrivals (before ++ [last]))).counted
          statements :=
            (linesEffect service earlier (clock.arrivals (before ++ [last]))).statements } := by
  induction lines generalizing clock earlier room with
  | nil => exact absurd h (Nat.not_lt_zero room)
  | cons line lines ih =>
    simp only [Clock.arrivals, linesEffect, Effect.append_def, List.length_append] at h
    -- Either this response fits and a later one does not, by the clock behind this line, or this is
    -- the one.
    by_cases hroom : (framedEffect service (clock 0) earlier line).value.length ≤ room
    · obtain ⟨before, last, behind, rfl, hbefore, hlast, hhas⟩ := ih
        (earlier ++ (lineEffect service (clock 0) earlier line).statements)
        (Nat.sub_lt_left_of_lt_add hroom h)
      refine ⟨line :: before, last, behind, rfl, ?_, ?_, fun atEnd => ?_⟩
      · simp only [Clock.arrivals, linesEffect, Effect.append_def, List.length_append]
        omega
      · simp only [List.cons_append, Clock.arrivals, linesEffect, Effect.append_def,
          List.length_append]
        omega
      · have hfits : (some room).all
            ((framedEffect service (clock 0) earlier line).value.length ≤ ·) = true := by
          simpa only [Option.all_some, decide_eq_true_iff] using hroom
        simp only [List.cons_append, Clock.arrivals, linesEffect, Effect.append_def]
        rw [List.take_append, List.take_of_length_le hroom]
        exact answerLines_step service earlier atEnd hfits (hhas atEnd)
    · have hfull : room < (framedEffect service (clock 0) earlier line).value.length := by omega
      refine ⟨[], line, lines, rfl, Nat.zero_le room, ?_, fun atEnd => ?_⟩
      · simp only [List.nil_append, Clock.arrivals, linesEffect, Effect.append_def,
          List.append_nil]
        exact hfull
      · simp only [List.nil_append, Clock.arrivals, linesEffect, Effect.append_def,
          List.append_nil, Stats.add_zero]
        rw [List.take_append_of_le_length (Nat.le_of_lt hfull)]
        exact answerLines_full service earlier atEnd hfull

variable (clock : Clock)

/-- Why the source ended bears on the reason of the end only, and only if the sink was not full
before. -/
theorem answerLines_atEnd (room : Option Nat) (lines : List (List UInt8)) :
    ∃ (written : List UInt8) (failure : Option Failure) (counted : Stats)
        (statements : List String),
      ∀ atEnd, (answerLines service atEnd room (clock.arrivals lines)).Has earlier
        { value := ⟨written, failure.or atEnd⟩, counted := counted, statements := statements } := by
  by_cases hfits :
      room.all ((linesEffect service earlier (clock.arrivals lines)).value.length ≤ ·) = true
  · exact ⟨_, none, _, _, fun atEnd => answerLines_fits service earlier atEnd hfits⟩
  · cases room with
    | none => exact absurd rfl hfits
    | some n =>
      have hfull : n < (linesEffect service earlier (clock.arrivals lines)).value.length := by
        simpa using hfits
      obtain ⟨_, _, _, -, -, -, hhas⟩ := answerLines_overflows service earlier hfull
      exact ⟨_, some (.io sinkFull), _, _, hhas⟩

/-! ## Serving -/

theorem serve_has_of (source : Source) {room : Option Nat} {d : Effect Delivery}
    (h : (answerLines service (source.fault.map .io) room (clock.arrivals source.lines)).Has
      earlier d) :
    (serve service clock source room).Has earlier d := by
  unfold serve
  refine (Serving.Gives.log _ earlier).after ?_
  refine .of_eq (Stats.add_zero _) (h.before ?_)
  split
  · exact (Serving.Gives.log _ _).after (Serving.Gives.pure _ _)
  · exact Serving.Gives.pure _ _

end Server

/-! ## Sources that fail -/

/-- Where the last line that has been ended ends. -/
theorem exists_ended (bytes : List UInt8) :
    ∃ ended rest, bytes = ended ++ rest ∧ IsEnded ended ∧ newline ∉ rest := by
  have hcut := cut_linesOf bytes
  generalize linesOf bytes = lines at hcut
  induction hcut with
  | nil => exact ⟨[], [], rfl, .inl rfl, List.not_mem_nil⟩
  | @last line _ hline => exact ⟨[], line, rfl, .inl rfl, hline⟩
  | @line body bytes _ _ _ ih =>
    obtain ⟨ended, rest, rfl, hended, hrest⟩ := ih
    refine ⟨body ++ newline :: ended, rest, ?_, isEnded_line_iff.mpr hended, hrest⟩
    rw [List.append_assoc, List.cons_append]

theorem getLast?_of_mem_linesOf {bytes : List UInt8} (h : IsEnded bytes) {line : List UInt8}
    (hline : line ∈ linesOf bytes) : line.getLast? = some newline := by
  have hcut := cut_linesOf bytes
  generalize linesOf bytes = lines at hcut hline
  induction hcut with
  | nil => cases hline
  | last hne hnone =>
    rcases h with rfl | hlast
    · exact absurd rfl hne
    · exact absurd (List.mem_of_getLast? hlast) hnone
  | @line body rest lines _ _ ih =>
    rcases List.mem_cons.mp hline with rfl | hmem
    · exact List.getLast?_concat
    · exact ih (isEnded_line_iff.mp h) hmem

/-- A source that fails has the lines that have been ended. -/
theorem Source.lines_of_fault {ended rest : List UInt8} (hended : IsEnded ended)
    (hrest : newline ∉ rest) (message : String) :
    Source.lines ⟨ended ++ rest, some message⟩ = linesOf ended := by
  have hkept : (linesOf ended).filter (·.getLast? == some newline) = linesOf ended := by
    rw [List.filter_eq_self]
    intro line hline
    rw [getLast?_of_mem_linesOf hended hline]
    rfl
  have hlost : (linesOf rest).filter (·.getLast? == some newline) = [] := by
    rw [List.filter_eq_nil_iff]
    intro line hline hlast
    have hmem : newline ∈ line := List.mem_of_getLast? (beq_iff_eq.mp hlast)
    have hbytes : newline ∈ (linesOf rest).flatten := List.mem_flatten_of_mem hline hmem
    rw [flatten_linesOf] at hbytes
    exact hrest hbytes
  show (linesOf (ended ++ rest)).filter (·.getLast? == some newline) = _
  rw [linesOf_append hended, List.filter_append, hkept, hlost, List.append_nil]

/-! ## What is done -/

/-- Actions that count the same and execute the same statements. -/
def Serving.SameDeeds {α β : Type} (x : Serving α) (y : Serving β) (stats : Stats) (j : Journal) :
    Prop :=
  x.counters stats j = y.counters stats j ∧
    (x.journal stats j).statements = (y.journal stats j).statements

theorem Serving.SameDeeds.of_has {α β : Type} {x : Serving α} {y : Serving β} {j : Journal}
    {a : α} {b : β} {counted : Stats} {statements : List String}
    (hx : x.Has j.statements ⟨a, counted, statements⟩)
    (hy : y.Has j.statements ⟨b, counted, statements⟩) (stats : Stats) : x.SameDeeds y stats j := by
  constructor
  · rw [hx.counters_eq, hy.counters_eq]
  · rw [hx.statements_eq, hy.statements_eq]

namespace Server

variable (service : Service)

theorem linesEffect_eq (earlier : List String) (arrivals : List Arrival) :
    linesEffect service earlier arrivals =
      { value := (arrivalsEffect service earlier arrivals).value.flatMap frame
        counted := (arrivalsEffect service earlier arrivals).counted
        statements := (arrivalsEffect service earlier arrivals).statements } := by
  induction arrivals generalizing earlier with
  | nil => rfl
  | cons arrival arrivals ih =>
    rw [linesEffect, ih]
    rfl

/-- What is served executes and counts as lines do that are handled as they arrive. -/
theorem sameDeeds_handleAll {α : Type} {x : Serving α} {a : α} {arrivals : List Arrival}
    {j : Journal} (h : x.Has j.statements
      { value := a
        counted := (linesEffect service j.statements arrivals).counted
        statements := (linesEffect service j.statements arrivals).statements }) (stats : Stats) :
    x.SameDeeds (handleAll service arrivals) stats j := by
  rw [linesEffect_eq] at h
  exact .of_has h (handleAll_has service j.statements arrivals) stats

variable (clock : Clock)

/-- The responses to lines, each on a line of its own. -/
def framed (lines : List (List UInt8)) (stats : Stats) (j : Journal) : List UInt8 :=
  ((handleAll service (clock.arrivals lines)).value stats j).flatMap frame

theorem framed_eq (lines : List (List UInt8)) (stats : Stats) (j : Journal) :
    framed service clock lines stats j =
      (linesEffect service j.statements (clock.arrivals lines)).value := by
  rw [framed, (handleAll_has service j.statements _).value_eq, linesEffect_eq]

end Server

/-! ## The theorem -/

section

variable (service : Service) (clock : Clock) (bytes : List UInt8) (stats : Stats) (j : Journal)

/-- A sink that takes so many bytes gets the front of what is written in full. If that is not all,
serving fails, and what was done is to handle the lines up to the first whose response, with the
newline behind it, does not fit. -/
structure EndsWithSink (full : List UInt8) (room : Nat) : Prop where
  delivered : (Server.serve service clock ⟨bytes, none⟩ (some room)).value stats j =
    ⟨full.take room, if room < full.length then some (.io sinkFull) else none⟩
  complete : full.length ≤ room →
    (Server.serve service clock ⟨bytes, none⟩ (some room)).SameDeeds
      (Server.handleAll service (clock.arrivals (linesOf bytes))) stats j
  interrupted : room < full.length → ∃ before last behind,
    linesOf bytes = before ++ last :: behind ∧
    (Server.framed service clock before stats j).length ≤ room ∧
    room < (Server.framed service clock (before ++ [last]) stats j).length ∧
    (Server.serve service clock ⟨bytes, none⟩ (some room)).SameDeeds
      (Server.handleAll service (clock.arrivals (before ++ [last]))) stats j

/-- A source that fails is served as if it ended where its last line does, and serving fails. The
reason is that of the source, unless the sink was full before. -/
structure EndsWithSource (ended : List UInt8) (message : String) (room : Option Nat) : Prop where
  delivered : (Server.serve service clock ⟨bytes, some message⟩ room).value stats j =
    ⟨((Server.serve service clock ⟨ended, none⟩ room).value stats j).written,
      some (((Server.serve service clock ⟨ended, none⟩ room).value stats j).failure.getD
        (.io message))⟩
  deeds : (Server.serve service clock ⟨bytes, some message⟩ room).SameDeeds
    (Server.serve service clock ⟨ended, none⟩ room) stats j

variable {service clock bytes stats j}

theorem endsWithSink (room : Nat) :
    EndsWithSink service clock bytes stats j (Server.framed service clock (linesOf bytes) stats j)
      room := by
  rw [Server.framed_eq]
  by_cases hroom : room <
      (Server.linesEffect service j.statements (clock.arrivals (linesOf bytes))).value.length
  · obtain ⟨before, last, behind, hlines, hbefore, hlast, hhas⟩ :=
      Server.answerLines_overflows service j.statements hroom
    have hserve := Server.serve_has_of service j.statements clock ⟨bytes, none⟩ (hhas none)
    exact {
      delivered := by rw [hserve.value_eq, if_pos hroom]
      complete := fun hle => absurd hroom (Nat.not_lt.mpr hle)
      interrupted := fun _ => by
        refine ⟨before, last, behind, hlines, ?_, ?_,
          Server.sameDeeds_handleAll service hserve stats⟩
        · rwa [Server.framed_eq]
        · rwa [Server.framed_eq] }
  · have hle := Nat.not_lt.mp hroom
    have hfits : (some room).all
        ((Server.linesEffect service j.statements
          (clock.arrivals (linesOf bytes))).value.length ≤ ·) = true := by
      simpa only [Option.all_some, decide_eq_true_iff] using hle
    have hserve := Server.serve_has_of service j.statements clock ⟨bytes, none⟩
      (Server.answerLines_fits service j.statements none hfits)
    exact {
      delivered := by
        rw [hserve.value_eq, if_neg hroom, List.take_of_length_le hle]
        rfl
      complete := fun _ => Server.sameDeeds_handleAll service hserve stats
      interrupted := fun hlt => absurd hlt hroom }

theorem endsWithSource {ended rest : List UInt8} (hended : IsEnded ended) (hrest : newline ∉ rest)
    (message : String) (room : Option Nat) :
    EndsWithSource service clock (ended ++ rest) stats j ended message room := by
  obtain ⟨written, failure, counted, statements, hhas⟩ :=
    Server.answerLines_atEnd service j.statements clock room (linesOf ended)
  have hsound := Server.serve_has_of service j.statements clock ⟨ended, none⟩ (hhas none)
  have hlines := Source.lines_of_fault hended hrest message
  have hbroken := hhas (some (.io message))
  rw [← hlines] at hbroken
  have hbroken' := Server.serve_has_of service j.statements clock
    ⟨ended ++ rest, some message⟩ hbroken
  constructor
  · rw [hbroken'.value_eq, hsound.value_eq]
    cases failure <;> rfl
  · exact .of_has hbroken' hsound stats

end

/-- **Serving that is cut short.** Into a sink that takes everything, what is written are the
responses to all lines, and serving ends well. A full sink and a source that fails cut it short as
`EndsWithSink` and `EndsWithSource` say. -/
theorem serve_cut_short (service : Service) (clock : Clock) (bytes : List UInt8) (stats : Stats)
    (j : Journal) :
    let whole := Server.serve service clock ⟨bytes, none⟩ none
    let full := Server.framed service clock (linesOf bytes) stats j
    (whole.value stats j = ⟨full, none⟩ ∧
      whole.SameDeeds (Server.handleAll service (clock.arrivals (linesOf bytes))) stats j) ∧
    (∀ room, EndsWithSink service clock bytes stats j full room) ∧
    ∃ ended rest, bytes = ended ++ rest ∧ IsEnded ended ∧ newline ∉ rest ∧
      ∀ message room, EndsWithSource service clock bytes stats j ended message room := by
  intro whole full
  have hwhole := Server.serve_has service j.statements clock bytes
  refine ⟨⟨?_, Server.sameDeeds_handleAll service hwhole stats⟩, endsWithSink, ?_⟩
  · rw [hwhole.value_eq, Server.streamEffect, ← Server.framed_eq]
  · obtain ⟨ended, rest, rfl, hended, hrest⟩ := exists_ended bytes
    exact ⟨ended, rest, rfl, hended, hrest, endsWithSource hended hrest⟩

end GraphGateway.Protocol
