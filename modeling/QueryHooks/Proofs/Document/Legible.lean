import QueryHooks.Document.Load
import QueryHooks.Proofs.Json.Limits
import QueryHooks.Proofs.Value.Short
import QueryHooks.Proofs.Yaml.Denotes

/-!
Loading legible documents: texts within the limits of the readers, whose scalars denote what their tags promise.
What is wrong with such a text is reported as a fault of the description.
-/

namespace QueryHooks.Document

variable {world : World} {hint : Hint} {text path source : String}

/-- Whether a text is legible in the formats that are tried. YAML is not if JSON is expected or found. -/
structure IsLegible (hint : Hint) (text : String) : Prop where
  json : hint ≠ .yaml → Json.IsWithin false 0 text.toList
  yaml : hint = .yaml ∨ hint = .any ∧ (∀ v, Json.read text.toList ≠ .ok v) → Yaml.IsLegible text.toList

/-- Whether a file can be reached, if it is there, and what it says is legible, if it is text. -/
structure IsReadable (world : World) (path : String) : Prop where
  reached : ∀ refusal, world.disk.find world.workdir (.ofText path) = .error refusal → meansMissing refusal = true
  legible : ∀ place octets text, world.disk.find world.workdir (.ofText path) = .ok (place, .file octets) →
    textOf octets = .ok text → IsLegible (hintOfPath (.ofText path)) text

theorem reported_parseYaml {chars : List Char} (legible : Yaml.IsLegible chars) (reason : Option String) :
    Reported (parseYaml reason chars) := by
  have read := legible.ends_read
  unfold parseYaml
  split
  · next v _ =>
      unfold mappingOf
      split
      · exact .ok _
      · exact .spec _
      · exact .spec _
  · exact .spec _
  · next failed =>
      obtain ⟨problem, same⟩ := read.failed _ failed
      cases same

theorem reported_parse (legible : IsLegible hint text) : Reported (parse hint text) := by
  unfold parse
  dsimp only
  by_cases isYaml : hint = .yaml
  · rw [if_pos (beq_iff_eq.2 isYaml)]
    exact reported_parseYaml (legible.yaml (.inl isYaml)) none
  · have read := Json.ends_read (legible.json isYaml)
    rw [if_neg (by simpa using isYaml)]
    split
    · next v _ =>
        unfold jsonMapping
        split
        · exact .ok _
        · exact .spec _
    · next problem position failed =>
        by_cases isJson : hint = .json
        · rw [if_pos (beq_iff_eq.2 isJson)]
          exact .spec _
        · have isAny : hint = .any := by cases hint <;> simp_all
          have noValue : ∀ v, Json.read text.toList ≠ .ok v := fun v found => by
            rw [failed] at found
            cases found
          rw [if_neg (by simpa using isJson)]
          exact reported_parseYaml (legible.yaml (.inr ⟨isAny, noValue⟩)) _
    · next other failed =>
        obtain ⟨problem, position, same⟩ := read.failed _ failed
        exact absurd same (other problem position)

theorem reported_ofFile (readable : IsReadable world path) : Reported (ofFile world path) := by
  unfold ofFile
  dsimp only
  split
  · exact .spec _
  · split
    · next refusal refused =>
        rw [if_pos (readable.reached refusal refused)]
        exact .spec _
    · exact .spec _
    · next place octets found =>
        split
        · exact .spec _
        · next text isText =>
            split
            · exact .spec _
            · exact reported_parse (readable.legible place octets text found isText)

theorem reported_ofInput (legible : IsLegible .any world.stdin) : Reported (ofInput world) := by
  unfold ofInput
  split
  · exact .spec _
  · exact reported_parse legible

/-- Whether the description of a run comes from standard input or a file, and can be read there. -/
def IsReadableRoot (world : World) (source : String) : Prop :=
  if source = "-" then IsLegible .any world.stdin else isUrl source = false ∧ IsReadable world source

theorem reported_loadRoot (readable : IsReadableRoot world source) : Reported (loadRoot world source) := by
  unfold IsReadableRoot at readable
  unfold loadRoot
  by_cases dash : source = "-"
  · rw [if_pos dash] at readable
    rw [if_pos (beq_iff_eq.2 dash)]
    exact reported_ofInput readable
  · rw [if_neg dash] at readable
    rw [if_neg (by simpa using dash), load, readable.1]
    exact reported_ofFile readable.2

theorem reported_version {document : Value} (short : document.IsShort) : Reported (version document) := by
  unfold version
  split
  · next v _ found =>
      rw [(short.ofPart found).shown]
      exact .spec _
  · exact .spec _
  · exact .spec _
  · next v _ found =>
      rw [(short.ofPart found).shown]
      dsimp only [bind, Except.bind]
      split
      · exact .ok _
      · exact .spec _

end QueryHooks.Document
