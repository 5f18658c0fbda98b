import Automation.Proofs.Naming
import Automation.Proofs.Reading

/-!
Headers. An http node takes its headers from its settings as they were written, so what they are called and
how many there are is settled before any output is looked at: outputs only fill the placeholders in the
values, each once. A value that a placeholder refers to and that cannot be written as text is the one thing
by which outputs still decide whether there are headers at all.
-/
namespace Automation

open Http

section Values

variable {room : Nat}

/-- Only what cannot be written is not inserted. -/
theorem Value.not_within_of_inserted {v : Value} {e : Failure} (failed : v.inserted room = .error e) :
    ¬v.Within room := by
  intro within
  obtain ⟨s, written⟩ := inserted_of_within within
  rw [written] at failed
  cases failed

/-- A placeholder that refers to data that cannot be written where there is only so much room. -/
structure Placeholder.Unwritable (outputs : Outputs) (room : Nat) (p : Placeholder) (e : Failure) : Prop where
  refers : ∃ fields v, outputs.get? (String.ofList p.node) = some (.dict fields) ∧
    Fields.get? fields (String.ofList p.key) = some v ∧ ¬v.Within room ∧ v.inserted room = .error e

theorem Outputs.unwritable_of_inserted {outputs : Outputs} {p : Placeholder} {e : Failure}
    (failed : outputs.inserted room p = .error e) : p.Unwritable outputs room e := by
  have stands := inserted_standsFor outputs room p
  rw [failed] at stands
  generalize failure : (.error e : Except Failure (List Char)) = result at stands
  cases stands with
  | entry mapping there =>
    rename_i fields v
    cases written : v.inserted room with
    | ok s => simp [written, Except.map] at failure
    | error f =>
      simp only [written, Except.map, Except.error.injEq] at failure
      exact ⟨fields, v, mapping, there, Value.not_within_of_inserted written, failure ▸ written⟩
  | keyless | unmapped => cases failure

/-- A text is woven unless one of its placeholders has nothing to put in its place. -/
theorem weave_error {value : Placeholder → Except Failure (List Char)} {holes : List Hole}
    {last : List Char} {e : Failure} (failed : weave value holes last = .error e) :
    ∃ hole ∈ holes, value hole.reference = .error e := by
  induction holes with
  | nil => cases failed
  | cons hole holes ih =>
    rw [weave] at failed
    cases inserted : value hole.reference with
    | error f =>
      rw [inserted] at failed
      cases failed
      exact ⟨hole, List.mem_cons_self, inserted⟩
    | ok cs =>
      rw [inserted] at failed
      cases tail : weave value holes last with
      | ok cs => simp [tail, Except.map] at failed
      | error f =>
        simp only [tail, Except.map, Except.error.injEq] at failed
        obtain ⟨hole', there, failed⟩ := ih (failed ▸ tail)
        exact ⟨hole', List.mem_cons_of_mem _ there, failed⟩

end Values

/-- What becomes of a value in which placeholders are substituted: a text is woven from its one cut, each
placeholder replaced by what it stands for and the rest kept; other data stays as it is. -/
inductive Substituted (outputs : Outputs) (room : Nat) : Value → Value → Prop
  | text {s : String} {holes last cs} (cut : Cut s.toList holes last)
      (woven : weave (outputs.inserted room) holes last = .ok cs) :
      Substituted outputs room (.str s) (.str (String.ofList cs))
  | other {v : Value} (noText : ∀ s, v ≠ .str s) : Substituted outputs room v v

namespace Outputs

variable {outputs : Outputs} {room : Nat}

theorem substituted_of_resolve {v w : Value} (resolved : outputs.resolve room v = .ok w) :
    Substituted outputs room v w := by
  cases v with
  | str s =>
    obtain ⟨holes, last, cut, filled⟩ := exists_cut s.toList
    rw [resolve, resolveText, filled] at resolved
    cases woven : weave (outputs.inserted room) holes last with
    | error e => simp [woven] at resolved
    | ok cs =>
      simp only [woven, Except.ok.injEq] at resolved
      rw [← resolved]
      exact .text cut woven
  | _ =>
    cases resolved
    exact .other (by simp)

theorem unwritable_of_resolve {v : Value} {e : Failure} (failed : outputs.resolve room v = .error e) :
    ∃ s holes last, v = .str s ∧ Cut s.toList holes last ∧
      ∃ hole ∈ holes, hole.reference.Unwritable outputs room e := by
  cases v with
  | str s =>
    obtain ⟨holes, last, cut, filled⟩ := exists_cut s.toList
    rw [resolve, resolveText, filled] at failed
    cases woven : weave (outputs.inserted room) holes last with
    | ok cs => simp [woven] at failed
    | error f =>
      simp only [woven, Except.error.injEq] at failed
      obtain ⟨hole, there, missing⟩ := weave_error woven
      exact ⟨s, holes, last, rfl, cut, hole, there, unwritable_of_inserted (failed ▸ missing)⟩
  | _ => cases failed

/-- Fields that are substituted keep their names and their order. -/
theorem forall₂_of_resolveFields {fields settings : Fields Value}
    (resolved : outputs.resolveFields room fields = .ok settings) :
    List.Forall₂ (fun field setting => setting.1 = field.1 ∧ Substituted outputs room field.2 setting.2)
      fields settings := by
  induction fields generalizing settings with
  | nil =>
    cases resolved
    exact .nil
  | cons field fields ih =>
    obtain ⟨k, v⟩ := field
    rw [resolveFields] at resolved
    obtain ⟨w, first, resolved⟩ := ok_of_bind_ok resolved
    obtain ⟨rest, others, resolved⟩ := ok_of_bind_ok resolved
    cases resolved
    exact .cons ⟨rfl, substituted_of_resolve first⟩ (ih others)

theorem exists_of_resolveFields_error {fields : Fields Value} {e : Failure}
    (failed : outputs.resolveFields room fields = .error e) :
    ∃ field ∈ fields, outputs.resolve room field.2 = .error e := by
  induction fields with
  | nil => cases failed
  | cons field fields ih =>
    obtain ⟨k, v⟩ := field
    rw [resolveFields] at failed
    cases first : outputs.resolve room v with
    | error f =>
      rw [first] at failed
      cases failed
      exact ⟨(k, v), List.mem_cons_self, first⟩
    | ok w =>
      rw [first] at failed
      cases others : outputs.resolveFields room fields with
      | error f =>
        rw [others] at failed
        cases failed
        obtain ⟨field, there, failed⟩ := ih others
        exact ⟨field, List.mem_cons_of_mem _ there, failed⟩
      | ok rest =>
        rw [others] at failed
        cases failed

end Outputs

namespace Headers

/-- Headers with the names of their templates, in order, and the values that become of theirs. -/
def Follow (outputs : Outputs) (templates headers : Fields Value) : Prop :=
  List.Forall₂ (fun template header => header.1 = template.1 ∧ Substituted outputs Stack.header template.2 header.2)
    templates headers

/-- A placeholder in a template refers to data that cannot be written. -/
def Unfillable (outputs : Outputs) (templates : Fields Value) (e : Failure) : Prop :=
  ∃ name s holes last, (name, .str s) ∈ templates ∧ Cut s.toList holes last ∧
    ∃ hole ∈ holes, hole.reference.Unwritable outputs Stack.header e

/-- Headers of one name that differ in nothing but their text. -/
def Alike (header header' : String × Value) : Prop :=
  header.1 = header'.1 ∧ (header.2 = header'.2 ∨ ∃ s s', header.2 = .str s ∧ header'.2 = .str s')

theorem alike_of_substituted {outputs outputs' : Outputs} {room room' : Nat} {template v v' : Value}
    (first : Substituted outputs room template v) (second : Substituted outputs' room' template v') :
    v = v' ∨ ∃ s s', v = .str s ∧ v' = .str s' := by
  cases first with
  | text =>
    cases second with
    | text => exact .inr ⟨_, _, rfl, rfl⟩
    | other noText => exact absurd rfl (noText _)
  | other noText =>
    cases second with
    | text => exact absurd rfl (noText _)
    | other => exact .inl rfl

theorem Follow.alike {outputs outputs' : Outputs} {templates headers headers' : Fields Value}
    (first : Follow outputs templates headers) (second : Follow outputs' templates headers') :
    List.Forall₂ Alike headers headers' := by
  induction first generalizing headers' with
  | nil =>
    cases second
    exact .nil
  | cons follows _ ih =>
    cases second with
    | cons follows' rest =>
      exact .cons ⟨follows.1.trans follows'.1.symm, alike_of_substituted follows.2 follows'.2⟩ (ih rest)

theorem of_templates {raw : Value} {templates : Fields Value}
    (decoded : headerTemplates raw = .ok templates) (outputs : Outputs) :
    (∃ headers, decodeHeaders outputs raw = .ok headers ∧ Follow outputs templates headers) ∨
      ∃ e, decodeHeaders outputs raw = .error e ∧ Unfillable outputs templates e := by
  simp only [decodeHeaders, decoded]
  cases resolved : outputs.resolveFields Stack.header templates with
  | ok headers => exact .inl ⟨headers, rfl, Outputs.forall₂_of_resolveFields resolved⟩
  | error e =>
    obtain ⟨⟨name, v⟩, there, failed⟩ := Outputs.exists_of_resolveFields_error resolved
    obtain ⟨s, holes, last, rfl, cut, unwritable⟩ := Outputs.unwritable_of_resolve failed
    exact .inr ⟨e, rfl, name, s, holes, last, there, cut, unwritable⟩

end Headers

open Headers (Follow Unfillable Alike)

/-- Outputs do not decide which headers there are. Either a setting cannot be decoded, which is the same
failure under all outputs; or it has templates that are fixed before any output is looked at, and under all
outputs the headers have their names, in their order, with every placeholder in their texts substituted once
and nothing else changed. So the headers under any two outputs differ in texts only; and those of a request
follow the templates too, although all settings of its node are substituted at the top level as well. There
are no headers only where a placeholder in a template refers to data that cannot be written. -/
theorem headers_follow_templates (raw : Value) :
    (∃ e, ∀ outputs, decodeHeaders outputs raw = .error e) ∨
    ∃ templates : Fields Value,
      (∀ outputs,
        (∃ headers, decodeHeaders outputs raw = .ok headers ∧ Follow outputs templates headers) ∨
        ∃ e, decodeHeaders outputs raw = .error e ∧ Unfillable outputs templates e) ∧
      (∀ outputs outputs' headers headers', decodeHeaders outputs raw = .ok headers →
        decodeHeaders outputs' raw = .ok headers' → List.Forall₂ Alike headers headers') ∧
      ∀ (t : Turn) request, (t.node.settings.get? "headers").getD .null = raw →
        requestOf t = .ok request → Follow t.outputs templates request.headers := by
  cases decoded : headerTemplates raw with
  | error e => exact .inl ⟨e, fun outputs => by simp only [decodeHeaders, decoded]⟩
  | ok templates =>
    have follow : ∀ {outputs headers}, decodeHeaders outputs raw = .ok headers →
        Follow outputs templates headers := by
      intro outputs headers is
      rcases Headers.of_templates decoded outputs with ⟨headers', ok, follows⟩ | ⟨e, failed, -⟩
      · obtain rfl := Except.ok.inj (ok.symm.trans is)
        exact follows
      · cases failed.symm.trans is
    refine .inr ⟨templates, Headers.of_templates decoded, ?_, ?_⟩
    · exact fun _ _ _ _ is is' => (follow is).alike (follow is')
    · rintro t request rfl made
      exact follow (requestOf_eq_ok_iff.mp made).headers

/-- A header that refers to the reply of an earlier node is there when the reply is a text, and when it was
read and is nested too deep to be written there are no headers. -/
theorem headers_fail_by_output :
    let raw : Value := .dict [("X", .str (reference "h" "response"))]
    let kept (r : Response) : Outputs := [("h", .dict (responseFields r))]
    ∃ deep, decodeResponse deepReply = .ok deep ∧
      decodeHeaders (kept ⟨200, .str "up", []⟩) raw = .ok [("X", .str "up")] ∧
      decodeHeaders (kept deep) raw = .error .writtenTooDeep := by
  intro raw kept
  have resolved : ∀ r, (kept r).resolve Stack.header (.str (reference "h" "response")) =
      (r.body.inserted Stack.header).map .str :=
    fun r => Outputs.resolve_reference (by decide) (by decide)
      ⟨by simp, "respons".toList, 'e', rfl, rfl⟩ rfl rfl Stack.header
  have unwritten : (Value.nested Stack.setting).inserted Stack.header = .error .writtenTooDeep :=
    Value.inserted_nested (by decide)
  refine ⟨_, decodeResponse_deepReply, ?_, ?_⟩
  · simp only [raw, decodeHeaders, headerTemplates, Outputs.resolveFields, resolved]
    rfl
  · simp only [raw, decodeHeaders, headerTemplates, Outputs.resolveFields, resolved, unwritten]
    rfl

end Automation
