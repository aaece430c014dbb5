/-
Configurations on the wire.

A path is written as a string, so only a configuration whose paths are texts can be written
(`given?_eq_none_iff`). Paths that are given are texts; so is the initial path of the database if the
directory for data is one. What a configuration gives is all of it, put over whatever holds from the
start (`over_of_given?`), so a configuration that can be written is decoded from what it is written as
(`recovers`).
-/
import GraphGateway.Config.Basic
import GraphGateway.Proofs.Json.Settled
import GraphGateway.Proofs.Text.Utf8

namespace GraphGateway

open Json

/-! ## Paths -/

theorem Text.Utf8.encode_append (s t : String) : encode (s ++ t) = encode s ++ encode t := by
  rw [encode_eq, String.toList_append, List.flatMap_append, ← encode_eq, ← encode_eq]

namespace Files.Path

/-- The bytes of the path are those of a text. -/
def IsText (p : Path) : Prop := ∃ s, ofString s = p

theorem isText_ofString (s : String) : (ofString s).IsText := ⟨s, rfl⟩

theorem text?_eq_some_iff {p : Path} {s : String} : p.text? = some s ↔ ofString s = p := by
  obtain ⟨bytes⟩ := p
  have hdecode : (Text.Utf8.decode bytes).toOption = some s ↔ Text.Utf8.decode bytes = .ok s := by
    cases Text.Utf8.decode bytes <;> simp [Except.toOption]
  rw [text?, hdecode, Text.Utf8.decode_eq_ok_iff, ofString, Path.mk.injEq]

theorem mapM_text?_eq_some_iff {p : Option Path} {s : Option String} :
    p.mapM text? = some s ↔ p = s.map ofString := by
  cases p with
  | none => cases s <;> simp
  | some p =>
    rw [Option.mapM_some]
    cases s with
    | none => simp
    | some s => simp [text?_eq_some_iff, eq_comm (a := p)]

theorem IsText.child {p : Path} (h : p.IsText) (name : String) : (p.child name).IsText := by
  obtain ⟨s, rfl⟩ := h
  have hslash : Text.Utf8.encode "/" = [slash] := by decide +kernel
  unfold Path.child
  split
  · exact ⟨s ++ name, by simp [ofString, Text.Utf8.encode_append]⟩
  · exact ⟨s ++ "/" ++ name, by simp [ofString, Text.Utf8.encode_append, hslash]⟩

end Files.Path

/-! ## Configurations -/

namespace Config

open Json.Codec

variable {c : Config} {g : Given} {levels : Nat}

/-- The paths are texts, so that the configuration can be written. -/
def HasTexts (c : Config) : Prop := c.dbPath.IsText ∧ ∀ p, c.seedFile = some p → p.IsText

theorem initial_hasTexts {dataDirectory : Option Files.Path}
    (h : ∀ d, dataDirectory = some d → d.IsText) : (initial dataDirectory).HasTexts := by
  refine ⟨?_, nofun⟩
  cases dataDirectory with
  | none => exact (Files.Path.isText_ofString _).child _
  | some d => exact ((h d rfl).child _).child _

/-! ### What is given -/

theorem given?_eq_some_iff : c.given? = some g ↔ ∃ dbPath seedFile,
    g = ⟨some dbPath, some c.readOnly, seedFile, some c.logLevel⟩ ∧
      c.dbPath = Files.Path.ofString dbPath ∧ c.seedFile = seedFile.map Files.Path.ofString := by
  constructor
  · intro h
    unfold given? at h
    split at h
    · next dbPath seedFile hdbPath hseedFile =>
      exact ⟨dbPath, seedFile, (Option.some.inj h).symm,
        (Files.Path.text?_eq_some_iff.mp hdbPath).symm,
        Files.Path.mapM_text?_eq_some_iff.mp hseedFile⟩
    · cases h
  · rintro ⟨dbPath, seedFile, rfl, hdbPath, hseedFile⟩
    simp only [given?, Files.Path.text?_eq_some_iff.mpr hdbPath.symm,
      Files.Path.mapM_text?_eq_some_iff.mpr hseedFile]

theorem hasTexts_iff : c.HasTexts ↔ ∃ g, c.given? = some g := by
  constructor
  · rintro ⟨⟨dbPath, hdbPath⟩, hseedFile⟩
    have hseed : ∃ seedFile, c.seedFile = Option.map Files.Path.ofString seedFile := by
      cases hc : c.seedFile with
      | none => exact ⟨none, rfl⟩
      | some p =>
        obtain ⟨s, rfl⟩ := hseedFile p hc
        exact ⟨some s, rfl⟩
    obtain ⟨seedFile, hseed⟩ := hseed
    exact ⟨_, given?_eq_some_iff.mpr ⟨dbPath, seedFile, rfl, hdbPath.symm, hseed⟩⟩
  · rintro ⟨g, hg⟩
    obtain ⟨dbPath, seedFile, -, hdbPath, hseedFile⟩ := given?_eq_some_iff.mp hg
    refine ⟨⟨dbPath, hdbPath.symm⟩, fun p hp => ?_⟩
    rw [hseedFile] at hp
    obtain ⟨s, -, hs⟩ := Option.map_eq_some_iff.mp hp
    exact ⟨s, hs⟩

/-- A configuration can be written unless one of its paths is no text. -/
theorem given?_eq_none_iff : c.given? = none ↔ ¬c.HasTexts := by
  rw [hasTexts_iff, Option.eq_none_iff_forall_not_mem]
  exact not_exists.symm

/-- Nothing is left open but a script for seeding, and none holds from the start. -/
theorem over_of_given? (h : c.given? = some g) (dataDirectory : Option Files.Path) :
    g.over (initial dataDirectory) = c := by
  obtain ⟨dbPath, seedFile, rfl, hdbPath, hseedFile⟩ := given?_eq_some_iff.mp h
  obtain ⟨_, readOnly, _, logLevel⟩ := c
  subst hdbPath hseedFile
  cases seedFile <;> rfl

theorem over_hasTexts (g : Given) (h : c.HasTexts) : (g.over c).HasTexts := by
  obtain ⟨dbPath, readOnly, seedFile, logLevel⟩ := g
  constructor
  · cases dbPath with
    | none => exact h.1
    | some s => exact Files.Path.isText_ofString s
  · cases seedFile with
    | none => exact h.2
    | some s =>
      rintro p hp
      cases hp
      exact Files.Path.isText_ofString s

/-! ### Decoding -/

theorem pathText_readsBack (s : String) : pathText.ReadsBack levels s := by
  have htext : IsText (Tree.ofJson (.string s)) s := ⟨_, rfl, spells_flatMap s.toList⟩
  have hplain : Plain 0 (.string s) := by simp [Plain]
  exact readsBack_of_plain hplain (parsed_reads htext rfl)

theorem nodup_fieldNames : ["db_path", "read_only", "seed_file", "log_level"].Nodup := by decide

theorem Given.readsBack (g : Given) : Given.codec.ReadsBack (levels + 1) g := by
  have hseed : pathText.optional.ReadsBack levels g.seedFile := by
    cases g.seedFile with
    | none => exact optional_readsBack_none
    | some s => exact optional_readsBack_some (pathText_readsBack s) rfl (by decide)
  exact record_readsBack
    ⟨Field.given_readsBack pathText_readsBack _, Field.given_readsBack flag_readsBack _, hseed,
      Field.given_readsBack text_readsBack _, trivial⟩ nodup_fieldNames rfl

/-- What a configuration is encoded as, on one line or on several, is decoded as an equal one, which
is encoded as the same text again. -/
def Recovers (dataDirectory : Option Files.Path) (c : Config) : Prop :=
  ∃ j, c.toJson? = some j ∧ ∀ encode ∈ [Json.compact, Json.indented], ∃ again,
    decode dataDirectory (encode j) = .ok again ∧ again = c ∧
      again.toJson?.map encode = some (encode j)

theorem recovers (h : c.HasTexts) (dataDirectory : Option Files.Path) :
    c.Recovers dataDirectory := by
  obtain ⟨g, hg⟩ := hasTexts_iff.mp h
  have hjson : c.toJson? = some (Given.codec.write g) := by rw [toJson?, hg, Option.map_some]
  have hback : Given.codec.ReadsBack maxNesting g := g.readsBack
  refine ⟨_, hjson, fun encode hencode => ?_⟩
  obtain ⟨_, hdecode, rfl, -⟩ := hback.recovers encode hencode
  refine ⟨c, ?_, rfl, ?_⟩
  · rw [decode, hdecode, Except.map, over_of_given? hg]
  · rw [hjson, Option.map_some]

theorem toJson?_eq_none_iff : c.toJson? = none ↔ ¬c.HasTexts := by
  rw [toJson?, Option.map_eq_none_iff, given?_eq_none_iff]

/-- The paths of what is decoded are texts if those are that hold from the start. -/
theorem hasTexts_of_decode {dataDirectory : Option Files.Path} {text : String}
    (h : (initial dataDirectory).HasTexts) (hc : decode dataDirectory text = .ok c) :
    c.HasTexts := by
  obtain ⟨g, -, rfl⟩ := map_eq_ok_iff.mp hc
  exact over_hasTexts g h

end Config

end GraphGateway
