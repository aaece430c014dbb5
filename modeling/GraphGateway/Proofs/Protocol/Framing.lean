/-
Lines in, lines out.

A byte sequence is cut behind each newline, and in one way only (`cut_iff`). Responses hold no
control characters, so what is written is cut into the responses again. A carriage return in front
of a newline makes no difference: blanks at the end of a text are dropped, and where the bytes are
no text, the first fault stands in front of the newline. Every line is answered for the time when it
arrives, so what follows a part of a stream is served by the clock behind the lines of that part.
-/
import GraphGateway.Proofs.Json.Printed
import GraphGateway.Proofs.Protocol.Independence
import GraphGateway.Proofs.Text.Utf8

namespace GraphGateway.Protocol

/-! ## Cutting -/

/-- Bytes are cut behind each newline; what follows the last one is a line too, unless it is
empty. -/
inductive Cut : List UInt8 → List (List UInt8) → Prop where
  | nil : Cut [] []
  | last {line : List UInt8} : line ≠ [] → newline ∉ line → Cut line [line]
  | line {body rest : List UInt8} {lines : List (List UInt8)} : newline ∉ body → Cut rest lines →
    Cut (body ++ newline :: rest) ((body ++ [newline]) :: lines)

/-- Bytes at whose end a line ends. -/
def IsEnded (bytes : List UInt8) : Prop := bytes = [] ∨ bytes.getLast? = some newline

theorem isEnded_line_iff {body bytes : List UInt8} :
    IsEnded (body ++ newline :: bytes) ↔ IsEnded bytes := by
  cases bytes with
  | nil => simp [IsEnded]
  | cons b bytes => simp [IsEnded, List.getLast?_append, List.getLast?_cons]

theorem linesOf_of_not_mem {line : List UInt8} (hline : newline ∉ line) (hne : line ≠ []) :
    linesOf line = [line] := by
  induction line with
  | nil => exact absurd rfl hne
  | cons b line ih =>
    have hb : b ≠ newline := (List.ne_of_not_mem_cons hline).symm
    have hrest : newline ∉ line := List.not_mem_of_not_mem_cons hline
    rw [linesOf, if_neg hb]
    cases line with
    | nil => rfl
    | cons c line => rw [ih hrest (List.cons_ne_nil c line)]

theorem linesOf_line {body : List UInt8} (hbody : newline ∉ body) (rest : List UInt8) :
    linesOf (body ++ newline :: rest) = (body ++ [newline]) :: linesOf rest := by
  induction body with
  | nil => rw [List.nil_append, linesOf, if_pos rfl, List.nil_append]
  | cons b body ih =>
    have hb : b ≠ newline := (List.ne_of_not_mem_cons hbody).symm
    have hrest : newline ∉ body := List.not_mem_of_not_mem_cons hbody
    rw [List.cons_append, linesOf, if_neg hb, ih hrest, List.cons_append]

theorem cut_linesOf (bytes : List UInt8) : Cut bytes (linesOf bytes) := by
  induction bytes with
  | nil => exact .nil
  | cons b bytes ih =>
    by_cases hb : b = newline
    · subst hb
      have h : Cut ([] ++ newline :: bytes) (([] ++ [newline]) :: linesOf bytes) :=
        .line List.not_mem_nil ih
      rwa [linesOf, if_pos rfl]
    · rw [linesOf, if_neg hb]
      generalize linesOf bytes = lines at ih
      cases ih with
      | nil => exact .last (List.cons_ne_nil b []) (by simpa using Ne.symm hb)
      | last hne hline =>
        exact .last (List.cons_ne_nil b bytes) (by simpa using ⟨Ne.symm hb, hline⟩)
      | @line body rest lines hbody hrest =>
        have hlonger : newline ∉ b :: body := by simpa using ⟨Ne.symm hb, hbody⟩
        exact .line hlonger hrest

/-- There is one way to cut. -/
theorem cut_iff {bytes : List UInt8} {lines : List (List UInt8)} :
    Cut bytes lines ↔ lines = linesOf bytes := by
  constructor
  · intro h
    induction h with
    | nil => rfl
    | last hne hline => rw [linesOf_of_not_mem hline hne]
    | line hbody _ ih => rw [linesOf_line hbody, ih]
  · rintro rfl
    exact cut_linesOf bytes

/-- Behind the end of a line, cutting starts anew. -/
theorem linesOf_append {xs : List UInt8} (hxs : IsEnded xs) (ys : List UInt8) :
    linesOf (xs ++ ys) = linesOf xs ++ linesOf ys := by
  have hcut := cut_linesOf xs
  generalize linesOf xs = lines at hcut
  induction hcut with
  | nil => rfl
  | last hne hline =>
    rcases hxs with hnil | hlast
    · exact absurd hnil hne
    · exact absurd (List.mem_of_getLast? hlast) hline
  | @line body rest lines hbody _ ih =>
    rw [List.append_assoc, List.cons_append, linesOf_line hbody, ih (isEnded_line_iff.mp hxs),
      List.cons_append]

/-! ## What is written -/

theorem Response.isPrinted_text (response : Response) : Json.IsPrinted response.text.toList :=
  Json.isPrinted_compact _

/-- No response holds a byte below 0x20. -/
theorem Response.le_of_mem_text {response : Response} {b : UInt8}
    (h : b ∈ Text.Utf8.encode response.text) : 0x20 ≤ b.toNat :=
  Text.Utf8.le_of_mem_encode response.isPrinted_text h

/-- What is written is cut into the responses. -/
theorem cut_frames (answers : List (Option Response)) :
    Cut (answers.flatMap frame)
      ((answers.filterMap id).map fun response => Text.Utf8.encode response.text ++ [newline]) := by
  induction answers with
  | nil => exact .nil
  | cons answer answers ih =>
    cases answer with
    | none => exact ih
    | some response =>
      have hbody : newline ∉ Text.Utf8.encode response.text := by
        intro h
        have hle := Response.le_of_mem_text h
        exact absurd hle (by decide)
      have h := Cut.line hbody ih
      simpa [frame] using h

/-! ## Carriage returns -/

/-- The bytes with a carriage return in front of each newline. -/
def withReturns (bytes : List UInt8) : List UInt8 :=
  bytes.flatMap fun b => if b = newline then [0x0D, newline] else [b]

theorem withReturns_of_not_mem {bytes : List UInt8} (h : newline ∉ bytes) :
    withReturns bytes = bytes := by
  induction bytes with
  | nil => rfl
  | cons b bytes ih =>
    have hb : b ≠ newline := (List.ne_of_not_mem_cons h).symm
    have hrest : newline ∉ bytes := List.not_mem_of_not_mem_cons h
    have hcons : withReturns (b :: bytes) = b :: withReturns bytes := by simp [withReturns, hb]
    rw [hcons, ih hrest]

theorem withReturns_line {body : List UInt8} (hbody : newline ∉ body) (rest : List UInt8) :
    withReturns (body ++ newline :: rest) = (body ++ [0x0D]) ++ newline :: withReturns rest := by
  have hnewline : withReturns (newline :: rest) = 0x0D :: newline :: withReturns rest := by
    simp [withReturns]
  have happend : withReturns (body ++ newline :: rest) =
      withReturns body ++ withReturns (newline :: rest) := by simp [withReturns]
  rw [happend, withReturns_of_not_mem hbody, hnewline, List.append_assoc]
  rfl

/-- The lines are the same, each with its carriage return. -/
theorem Cut.withReturns {bytes : List UInt8} {lines : List (List UInt8)} (h : Cut bytes lines) :
    Cut (withReturns bytes) (lines.map Protocol.withReturns) := by
  induction h with
  | nil => exact .nil
  | last hne hline =>
    rw [List.map_singleton, withReturns_of_not_mem hline]
    exact .last hne hline
  | @line body rest lines hbody _ ih =>
    have hlonger : newline ∉ body ++ [0x0D] := by simpa using ⟨hbody, by decide⟩
    rw [List.map_cons, withReturns_line hbody, withReturns_line hbody]
    exact .line hlonger ih

theorem trim_append {s t : String} (ht : Text.isAllBlank t = true) :
    Text.trim (s ++ t) = Text.trim s := by
  rw [Text.trim, Text.trim, String.toList_append, Text.trimChars_append_right ht]

namespace Server

variable (service : Service) (now : Calendar.Moment) (earlier : List String)

/-- Blanks at the end of a text do not matter. -/
theorem textEffect_append {s t : String} (ht : Text.isAllBlank t = true) :
    textEffect service now earlier (s ++ t) = textEffect service now earlier s := by
  unfold textEffect
  rw [trim_append ht]

/-- What comes in front of the end of a line settles what comes of the line. -/
theorem lineEffect_append {t : String} (ht : Text.isAllBlank t = true) {b : UInt8}
    {rest : List UInt8} (hbytes : Text.Utf8.encode t = b :: rest) (hb : b.toNat < 0x80)
    (body : List UInt8) :
    lineEffect service now earlier (body ++ Text.Utf8.encode t) =
      match Text.Utf8.charsOf 0 ((Text.Utf8.pieces body).map Text.Utf8.Piece.settled) with
      | .ok cs => textEffect service now earlier (String.ofList cs)
      | .error fault => rejection s!"request is not valid UTF-8: {fault.message}" := by
  rw [lineEffect, Text.Utf8.decode_append hbytes hb]
  cases Text.Utf8.charsOf 0 ((Text.Utf8.pieces body).map Text.Utf8.Piece.settled) with
  | error fault => rfl
  | ok cs => exact textEffect_append service now earlier ht

/-- A carriage return in front of the newline does not matter. -/
theorem lineEffect_return (body : List UInt8) :
    lineEffect service now earlier (body ++ [0x0D, newline]) =
      lineEffect service now earlier (body ++ [newline]) := by
  have hlong : Text.Utf8.encode "\r\n" = [0x0D, newline] := by
    rw [Text.Utf8.encode_eq]
    rfl
  have hshort : Text.Utf8.encode "\n" = [newline] := by
    rw [Text.Utf8.encode_eq]
    rfl
  rw [← hlong, ← hshort, lineEffect_append service now earlier rfl hlong (by decide),
    lineEffect_append service now earlier rfl hshort (by decide)]

/-! ## Streams -/

/-- What a fresh server answers to a line. -/
def fresh (line : List UInt8) : Option Response := (handleBytes service now line).value {} []

/-- What a fresh server answers to lines as they arrive, each line to a server of its own. -/
def answers (arrivals : List Arrival) : List (Option Response) :=
  arrivals.map fun (now, line) => fresh service now line

theorem fresh_eq (line : List UInt8) :
    fresh service now line = (lineEffect service now [] line).value := by
  have hj : Journal.statements [] = [] := rfl
  exact (handleBytes_has service now (Journal.statements []) line).value_eq {}

/-- Lines that have a carriage return in front of each newline are answered alike. -/
theorem answers_withReturns {bytes : List UInt8} {lines : List (List UInt8)} (h : Cut bytes lines)
    (clock : Clock) :
    answers service (clock.arrivals (lines.map withReturns)) =
      answers service (clock.arrivals lines) := by
  induction h generalizing clock with
  | nil => rfl
  | last hne hline => rw [List.map_singleton, withReturns_of_not_mem hline]
  | @line body rest lines hbody _ ih =>
    -- A clock does not look at lines, so each of them keeps its time.
    have hfirst : fresh service (clock 0) (withReturns (body ++ [newline])) =
        fresh service (clock 0) (body ++ [newline]) := by
      rw [withReturns_line hbody, fresh_eq, fresh_eq, List.append_assoc]
      exact congrArg Effect.value (lineEffect_return service (clock 0) [] body)
    exact congrArg₂ List.cons hfirst (ih (clock.after 1))

variable (clock : Clock)

/-- Bytes that can all be read are served into a sink that takes everything. -/
def stream (bytes : List UInt8) : Serving Delivery := serve service clock ⟨bytes, none⟩ none

/-- What a fresh server writes. -/
def output (bytes : List UInt8) : List UInt8 := ((stream service clock bytes).value {} []).written

/-- What a fresh server executes. -/
def executed (bytes : List UInt8) : List String :=
  ((stream service clock bytes).journal {} []).statements

/-- What a fresh server counts. -/
def counted (bytes : List UInt8) : Stats := (stream service clock bytes).counters {} []

theorem output_eq (bytes : List UInt8) :
    output service clock bytes =
      (linesEffect service [] (clock.arrivals (linesOf bytes))).value := by
  have h := (serve_has service (Journal.statements []) clock bytes).value_eq {}
  rw [output, stream, h]
  rfl

theorem executed_eq (bytes : List UInt8) :
    executed service clock bytes =
      (linesEffect service [] (clock.arrivals (linesOf bytes))).statements :=
  (serve_has service (Journal.statements []) clock bytes).statements_eq {}

theorem counted_eq (bytes : List UInt8) :
    counted service clock bytes =
      (linesEffect service [] (clock.arrivals (linesOf bytes))).counted := by
  have h := (serve_has service (Journal.statements []) clock bytes).counters_eq {}
  rw [counted, stream, h, Stats.zero_add]
  rfl

variable {service} (he : service.engine.Forgetful)
include he

/-- What a server did before does not matter. -/
theorem stream_eq (bytes : List UInt8) (stats : Stats) (j : Journal) :
    (stream service clock bytes).value stats j = ⟨output service clock bytes, none⟩ ∧
      ((stream service clock bytes).journal stats j).statements =
        j.statements ++ executed service clock bytes ∧
      (stream service clock bytes).counters stats j = stats + counted service clock bytes := by
  have h := serve_has service j.statements clock bytes
  have hsame : streamEffect service j.statements clock bytes =
      streamEffect service [] clock bytes := by
    unfold streamEffect
    rw [linesEffect_of_forgetful he]
  rw [hsame] at h
  refine ⟨?_, ?_, ?_⟩
  · rw [stream, h.value_eq, output_eq]
    rfl
  · rw [stream, h.statements_eq, executed_eq]
    rfl
  · rw [stream, h.counters_eq, counted_eq]
    rfl

theorem output_of_cut {bytes : List UInt8} {lines : List (List UInt8)} (h : Cut bytes lines) :
    output service clock bytes = (answers service (clock.arrivals lines)).flatMap frame := by
  rw [output_eq, ← cut_iff.mp h, linesEffect_value he, answers, List.flatMap_map]
  simp only [fresh_eq]

/-- One line is written for each line that is answered. -/
theorem cut_output {bytes : List UInt8} {lines : List (List UInt8)} (h : Cut bytes lines) :
    Cut (output service clock bytes)
      (((answers service (clock.arrivals lines)).filterMap id).map fun response =>
        Text.Utf8.encode response.text ++ [newline]) := by
  rw [output_of_cut clock he h]
  exact cut_frames _

theorem linesEffect_of_append {xs : List UInt8} (hxs : IsEnded xs) (ys : List UInt8) :
    linesEffect service [] (clock.arrivals (linesOf (xs ++ ys))) =
      linesEffect service [] (clock.arrivals (linesOf xs)) ++
        linesEffect service [] ((clock.after (linesOf xs).length).arrivals (linesOf ys)) := by
  rw [linesOf_append hxs, Clock.arrivals_append, linesEffect_append he]

theorem output_append {xs : List UInt8} (hxs : IsEnded xs) (ys : List UInt8) :
    output service clock (xs ++ ys) =
      output service clock xs ++ output service (clock.after (linesOf xs).length) ys := by
  rw [output_eq, output_eq, output_eq, linesEffect_of_append clock he hxs]
  rfl

theorem executed_append {xs : List UInt8} (hxs : IsEnded xs) (ys : List UInt8) :
    executed service clock (xs ++ ys) =
      executed service clock xs ++ executed service (clock.after (linesOf xs).length) ys := by
  rw [executed_eq, executed_eq, executed_eq, linesEffect_of_append clock he hxs]
  rfl

theorem counted_append {xs : List UInt8} (hxs : IsEnded xs) (ys : List UInt8) :
    counted service clock (xs ++ ys) =
      counted service clock xs + counted service (clock.after (linesOf xs).length) ys := by
  rw [counted_eq, counted_eq, counted_eq, linesEffect_of_append clock he hxs]
  rfl

/-- Any one line adds its own answer and leaves those to all other lines as they are. -/
theorem output_between {xs body : List UInt8} (hxs : IsEnded xs) (hbody : newline ∉ body)
    (ys : List UInt8) :
    output service clock (xs ++ (body ++ [newline]) ++ ys) =
      output service clock xs ++
        frame (fresh service (clock (linesOf xs).length) (body ++ [newline])) ++
        output service (clock.after ((linesOf xs).length + 1)) ys := by
  have hended : IsEnded (body ++ [newline]) := .inr (List.getLast?_concat)
  have hcut : Cut (body ++ [newline]) [body ++ [newline]] := .line hbody .nil
  have hline (clock : Clock) : output service clock (body ++ [newline]) =
      frame (fresh service (clock 0) (body ++ [newline])) := by
    rw [output_of_cut clock he hcut]
    exact List.flatMap_singleton ..
  rw [List.append_assoc, output_append clock he hxs, output_append _ he hended, hline,
    ← cut_iff.mp hcut, Clock.after_after, List.append_assoc]
  rfl

theorem output_withReturns (bytes : List UInt8) :
    output service clock (withReturns bytes) = output service clock bytes := by
  have hcut := cut_linesOf bytes
  rw [output_of_cut clock he hcut, output_of_cut clock he hcut.withReturns,
    answers_withReturns service hcut]

end Server

/-- **A stream is served line by line.** For an engine whose answers do not depend on earlier
statements, serving ends well and writes, for each line in turn, what a fresh server answers to it
at the time when it arrives, if anything, on a line of its own; responses hold no control characters,
so what is written has as many lines as are answered. What is served in two parts is served alike in
one, no line bears on the answer to another, and carriage returns at the ends of lines do not
matter. -/
theorem served_line_by_line {service : Service} (he : service.engine.Forgetful) (clock : Clock) :
    (∀ bytes stats j,
      (Server.stream service clock bytes).value stats j =
        ⟨Server.output service clock bytes, none⟩ ∧
      ((Server.stream service clock bytes).journal stats j).statements =
        j.statements ++ Server.executed service clock bytes ∧
      (Server.stream service clock bytes).counters stats j =
        stats + Server.counted service clock bytes) ∧
    (∀ bytes lines, Cut bytes lines →
      Server.output service clock bytes =
        (Server.answers service (clock.arrivals lines)).flatMap frame ∧
      Cut (Server.output service clock bytes)
        (((Server.answers service (clock.arrivals lines)).filterMap id).map fun response =>
          Text.Utf8.encode response.text ++ [newline])) ∧
    (∀ now line response, Server.fresh service now line = some response →
      ∀ b ∈ Text.Utf8.encode response.text, 0x20 ≤ b.toNat) ∧
    (∀ xs ys, IsEnded xs →
      Server.output service clock (xs ++ ys) =
        Server.output service clock xs ++
          Server.output service (clock.after (linesOf xs).length) ys ∧
      Server.executed service clock (xs ++ ys) =
        Server.executed service clock xs ++
          Server.executed service (clock.after (linesOf xs).length) ys ∧
      Server.counted service clock (xs ++ ys) =
        Server.counted service clock xs +
          Server.counted service (clock.after (linesOf xs).length) ys) ∧
    (∀ xs body ys, IsEnded xs → newline ∉ body →
      Server.output service clock (xs ++ (body ++ [newline]) ++ ys) =
        Server.output service clock xs ++
          frame (Server.fresh service (clock (linesOf xs).length) (body ++ [newline])) ++
          Server.output service (clock.after ((linesOf xs).length + 1)) ys) ∧
    ∀ bytes, Server.output service clock (withReturns bytes) =
      Server.output service clock bytes := by
  refine ⟨Server.stream_eq clock he, ?_, ?_, ?_, ?_, Server.output_withReturns clock he⟩
  · intro bytes lines h
    exact ⟨Server.output_of_cut clock he h, Server.cut_output clock he h⟩
  · intro now line response _ b hb
    exact Response.le_of_mem_text hb
  · intro xs ys hxs
    exact ⟨Server.output_append clock he hxs ys, Server.executed_append clock he hxs ys,
      Server.counted_append clock he hxs ys⟩
  · intro xs body ys hxs hbody
    exact Server.output_between clock he hxs hbody ys

/-- A database that cannot tell what one of its relationships connects. -/
def shelf : Service := ⟨Catalog.library (.error "gone"), ⟨[]⟩, true⟩

/-- A line that asks for the schema. -/
def schemaLine : List UInt8 := Text.Utf8.encode
  ("\x7b\"jsonrpc\":\"2.0\",\"id\":1,\"method\":\"tools/call\"," ++
    "\"params\":\x7b\"name\":\"getSchema\"\x7d\x7d\n")

/-- A clock by which a line arrives every second. -/
def everySecond : Clock := fun i => ⟨i, 0⟩

/-- A line that is no text, between two that ask for the schema. -/
theorem served_line_by_line_shelf :
    shelf.engine.Forgetful ∧ IsEnded schemaLine ∧ newline ∉ [0xFF] ∧
    (Server.fresh shelf (everySecond (linesOf schemaLine).length) ([0xFF] ++ [newline])).isSome ∧
    Server.output shelf everySecond (schemaLine ++ ([0xFF] ++ [newline]) ++ schemaLine) =
      Server.output shelf everySecond schemaLine ++
        frame (Server.fresh shelf (everySecond (linesOf schemaLine).length)
          ([0xFF] ++ [newline])) ++
        Server.output shelf (everySecond.after ((linesOf schemaLine).length + 1)) schemaLine ∧
    Server.output shelf everySecond (withReturns schemaLine) =
      Server.output shelf everySecond schemaLine := by
  have he : shelf.engine.Forgetful := Engine.ofTable_forgetful _
  have hended : IsEnded schemaLine := by
    refine .inr ?_
    rw [schemaLine, Text.Utf8.encode_eq]
    decide +kernel
  have hbody : newline ∉ [0xFF] := by decide
  obtain ⟨-, -, -, -, hbetween, hreturns⟩ := served_line_by_line he everySecond
  exact ⟨he, hended, hbody, rfl, hbetween _ _ _ hended hbody, hreturns _⟩

end GraphGateway.Protocol
