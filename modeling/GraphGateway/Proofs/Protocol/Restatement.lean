/-
The answer to a line depends on what the line means.

A request that is an object is told by the names and values of four members. So it makes no difference
in which order its members stand, which others stand among them and how deep these are nested, which
blanks stand between the tokens and at both ends of the line, or whether an identifier or parameters
that are `null` are there at all (`Restates`). All such lines hold the same request, and are answered
alike (`answered_by_meaning`).
-/
import GraphGateway.Proofs.Exchange
import GraphGateway.Proofs.Json.Rendered

namespace GraphGateway.Protocol

open Json

/-! ## Values by their tokens -/

theorem text_reads_takesValues (levels : Nat) :
    TakesValues (Codec.text.read levels) (Reads (Codec.text.read levels)) :=
  (Codec.text_takesValues levels).mono fun _ _ => Codec.text_reads

theorem any_reads_takesValues (levels : Nat) :
    TakesValues (Codec.any.read levels) (Reads (Codec.any.read levels)) :=
  (Codec.any_takesValues levels).mono fun _ _ => Codec.any_reads

theorem optional_any_reads_takesValues (levels : Nat) :
    TakesValues (Codec.any.optional.read levels) (Reads (Codec.any.optional.read levels)) :=
  (Codec.optional_takesValues (any_reads_takesValues levels)).mono fun _ _ => Codec.optional_reads

/-- What is read off a `null` is what is read off the text of one. -/
theorem reads_null {α : Type} {read : Reader α} {a b : α} (h : Reads read .null a)
    (hread : read ['n', 'u', 'l', 'l'] = .ok (b, [])) : a = b := by
  have hnull := h _ _ _ (.nil _) (.null []) ends_nil
  rw [hread] at hnull
  cases hnull
  rfl

/-! ## Lines -/

/-- The members that a request is told by. -/
def memberNames : List String := ["jsonrpc", "id", "method", "params"]

/-- One line is an object, blanks at both ends apart, and another one is an object that puts otherwise
what the first one says. -/
def Restates (line line' : String) : Prop :=
  ∃ members members' entries entries', HoldsTree (Text.trim line) (.object members) ∧
    HoldsTree (Text.trim line') (.object members') ∧ Named members entries ∧
    Named members' entries' ∧ Restated memberNames ["id", "params"] entries entries'

theorem Restates.decode {line line' : String} (h : Restates line line') {r : Request}
    (hr : Request.codec.decode (Text.trim line) = .ok r) :
    Request.codec.decode (Text.trim line') = .ok r := by
  obtain ⟨members, members', entries, entries', htext, htext', hnamed, hnamed', hrestated⟩ := h
  have hlevels : maxNesting = 126 + 1 := rfl
  refine Codec.record_decode_restated hlevels (by decide) ?_ ?_ htext htext' hnamed hnamed'
    (by exact hrestated) hr
  · exact ⟨text_reads_takesValues _, any_reads_takesValues _, text_reads_takesValues _,
      optional_any_reads_takesValues _, trivial⟩
  · intro name hname
    rcases List.mem_cons.mp hname with rfl | hname
    · refine ⟨nofun, fun _ j hj => ?_, nofun, nofun, trivial⟩
      rw [reads_null hj rfl]
      exact .inr rfl
    · obtain rfl := List.mem_singleton.mp hname
      refine ⟨nofun, nofun, nofun, fun _ params hparams => ?_, trivial⟩
      rw [reads_null hparams rfl]
      exact .inr rfl

/-- Blanks at both ends are dropped. -/
theorem trim_padded {front behind : String} (hfront : Text.isAllBlank front = true)
    (hbehind : Text.isAllBlank behind = true) (line : String) :
    Text.trim (front ++ line ++ behind) = Text.trim line := by
  rw [Text.trim, String.toList_append, String.toList_append, Text.trimChars_append_right hbehind,
    Text.trimChars_append_left hfront]
  rfl

/-- A line that can be read is handled as the request that it holds. -/
theorem handleText_of_decode (service : Service) (now : Calendar.Moment) {line : String} {r : Request}
    (hr : Request.codec.decode (Text.trim line) = .ok r) :
    Server.handleText service now line = Server.handleRequest service now r := by
  have hne : Text.trim line ≠ "" := by
    intro hempty
    rw [hempty] at hr
    cases hr
  simp only [Server.handleText, hne, hr, if_false]

/-- **The answer depends only on what a request means.** A line that holds a request, as an object, and
a line that puts the same otherwise, blanks of any kind around it, get the same response text, make the
engine execute the same statements and are counted alike. -/
theorem answered_by_meaning (service : Service) (now : Calendar.Moment) {line line' : String}
    {r : Request} (hr : Request.codec.decode (Text.trim line) = .ok r) (h : Restates line line')
    {front behind : String} (hfront : Text.isAllBlank front = true)
    (hbehind : Text.isAllBlank behind = true) (stats : Stats) (j : Journal) :
    let said := Server.handleText service now line
    let restated := Server.handleText service now (front ++ line' ++ behind)
    (restated.value stats j).map Response.text = (said.value stats j).map Response.text ∧
      (restated.journal stats j).statements = (said.journal stats j).statements ∧
      restated.counters stats j = said.counters stats j := by
  have hr' := h.decode hr
  rw [← trim_padded hfront hbehind] at hr'
  have hsame := (handleText_of_decode service now hr').trans (handleText_of_decode service now hr).symm
  rw [hsame]
  exact ⟨rfl, rfl, rfl⟩

/-- A ping with parameters that are `null`. -/
def plainPing : Members :=
  [("jsonrpc", .string "2.0"), ("id", .number (.int 1)), ("method", .string "ping"), ("params", .null)]

/-- The same ping in another order, with a member that nobody knows and without parameters. -/
def strewnPing : Members :=
  [("trace", .array [.object [], .null]), ("method", .string "ping"), ("id", .number (.int 1)),
    ("jsonrpc", .string "2.0")]

theorem strewnPing_restates :
    Restates (Json.object plainPing).compact (Json.object strewnPing).indented := by
  have hplain : Plain 1 (.object plainPing) := by simp [plainPing, Plain, InRange]
  have hstrewn : Plain 3 (.object strewnPing) := by simp [strewnPing, Plain, InRange]
  have htrim : Text.trim (Json.object plainPing).compact = (Json.object plainPing).compact := by
    decide +kernel
  have htrim' : Text.trim (Json.object strewnPing).indented = (Json.object strewnPing).indented := by
    decide +kernel
  refine ⟨_, _, _, _, ?_, ?_, named_ofMembers plainPing, named_ofMembers strewnPing, ?_⟩
  · rw [htrim]
    exact holdsTree_write .compact hplain
  · rw [htrim']
    exact holdsTree_write .indented hstrewn
  · let entries := plainPing.map fun m => (m.1, Tree.ofJson m.2)
    have hreversed : Restated memberNames ["id", "params"] entries entries.reverse :=
      .reorder (List.reverse_perm entries)
    exact (hreversed.trans (.leaveOut (by decide))).trans (.add (by decide) _)

theorem answered_by_meaning_ping :
    let service : Service := ⟨.ofTable [], ⟨[]⟩, true⟩
    let said := Server.handleText service ⟨0, 0⟩ (Json.object plainPing).compact
    let restated := Server.handleText service ⟨0, 0⟩
      ("\u3000" ++ (Json.object strewnPing).indented ++ "\u2028")
    (said.value {} []).map Response.text = some "\x7b\"jsonrpc\":\"2.0\",\"id\":1,\"result\":\x7b\x7d\x7d" ∧
      (restated.value {} []).map Response.text = (said.value {} []).map Response.text := by
  have hr : Request.codec.decode (Text.trim (Json.object plainPing).compact) =
      .ok ⟨"2.0", .number (.int 1), "ping", none⟩ := by decide +kernel
  have hfront : Text.isAllBlank "\u3000" = true := by decide
  have hbehind : Text.isAllBlank "\u2028" = true := by decide
  have hsame := answered_by_meaning ⟨.ofTable [], ⟨[]⟩, true⟩ ⟨0, 0⟩ hr strewnPing_restates hfront
    hbehind {} []
  refine ⟨?_, hsame.1⟩
  decide +kernel

end GraphGateway.Protocol
