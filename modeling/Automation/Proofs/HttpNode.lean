import Automation.Proofs.Forwarding
import Automation.Proofs.LogTrail
import Automation.Proofs.Nesting

/-!
How an http node ends. Its settings make a request, or for one of four reasons they do not: the method cannot
be shown, what a header refers to cannot be written, or the headers or the body of a post are nested too deep
to be read. With a request the node ends by the answer to it; texts that are no JSON are empty headers and empty
bodies, and no reason to make no request.
-/
namespace Automation

open Http Proc

/-- The reasons for which the settings of a node make no request. -/
inductive Unrequestable (t : Turn) : Failure → Prop
  | method {e} (unshown : ((t.setting "method").orElse (.str "GET")).text? = .error e) : Unrequestable t e
  | headers {text opening} (written : t.node.settings.get? "headers" = some (.str text))
      (deep : Json.read Stack.settingText text = .error (.tooDeep opening)) :
      Unrequestable t (.nestedTooDeep (nestingName opening))
  | header {templates e}
      (written : headerTemplates ((t.node.settings.get? "headers").getD .null) = .ok templates)
      (unfilled : t.outputs.resolveFields Stack.header templates = .error e) : Unrequestable t e
  | body {method text opening} (given : ((t.setting "method").orElse (.str "GET")).text? = .ok method)
      (post : Text.upper method = "POST") (held : t.setting "body" = .str text)
      (deep : Json.read Stack.settingText text = .error (.tooDeep opening)) :
      Unrequestable t (.nestedTooDeep (nestingName opening))

/-- How an http node ends, by the answer to its request. Only where the address cannot be shown either is a
request that failed not reported as one. -/
def Handled.ofAnswer (request : Request) : Except Failure Response → Handled
  | .ok response =>
    .success (responseFields response) .success "HTTP request executed" [("status", .int response.status)]
  | .error e =>
    match request.url.text? with
    | .ok _ => .failure "HTTP request failed" e.text
    | .error unshown => .failure "Node execution failed" unshown.text

section Requests

variable {t : Turn} {e : Failure}

/-- Headers that are not decoded are nested too deep, or one of them cannot be filled. -/
theorem unrequestable_of_decodeHeaders
    (failed : decodeHeaders t.outputs ((t.node.settings.get? "headers").getD .null) = .error e) :
    Unrequestable t e := by
  unfold decodeHeaders at failed
  split at failed
  · next e' refused =>
    cases failed
    cases written : t.node.settings.get? "headers" with
    | none =>
      rw [written] at refused
      cases refused
    | some raw =>
      rw [written, Option.getD_some] at refused
      cases raw with
      | str text =>
        rcases headerTemplates_cases text with ⟨opening, deep, is⟩ | ⟨templates, is, -⟩
        · cases is.symm.trans refused
          exact .headers written deep
        · cases is.symm.trans refused
      | _ => cases refused
  · next templates written => exact .header written failed

theorem unrequestable_of_decodeBody {method : String}
    (given : ((t.setting "method").orElse (.str "GET")).text? = .ok method)
    (post : Text.upper method = "POST") (failed : decodeBody (t.setting "body") = .error e) :
    Unrequestable t e := by
  cases held : t.setting "body" with
  | str text =>
    rw [held] at failed
    rcases decodeBody_cases text with ⟨opening, deep, is⟩ | ⟨body, is, -⟩
    · cases is.symm.trans failed
      exact .body given post held deep
    · cases is.symm.trans failed
  | _ =>
    rw [held] at failed
    cases failed

theorem unrequestable_of_requestOf (failed : requestOf t = .error e) : Unrequestable t e := by
  unfold requestOf at failed
  cases given : ((t.setting "method").orElse (.str "GET")).text? with
  | error f =>
    rw [given] at failed
    cases failed
    exact .method given
  | ok method =>
    cases decoded : decodeHeaders t.outputs ((t.node.settings.get? "headers").getD .null) with
    | error f =>
      simp only [given, decoded, bind, Except.bind] at failed
      cases failed
      exact unrequestable_of_decodeHeaders decoded
    | ok headers =>
      simp only [given, decoded, bind, Except.bind] at failed
      split at failed
      · next post =>
        split at failed
        · next f refused =>
          cases failed
          exact unrequestable_of_decodeBody given post refused
        · cases failed
      · cases failed

theorem requestOf_of_deep_headers {t : Turn} {method text : String} {opening : Json.Nesting}
    (given : ((t.setting "method").orElse (.str "GET")).text? = .ok method)
    (written : t.node.settings.get? "headers" = some (.str text))
    (deep : Json.read Stack.settingText text = .error (.tooDeep opening)) :
    requestOf t = .error (.nestedTooDeep (nestingName opening)) := by
  simp only [requestOf, given, written, Option.getD_some, decodeHeaders, headerTemplates_of_tooDeep deep,
    bind, Except.bind]

/-- Settings that there is a reason against make no request. -/
theorem Unrequestable.not_makes (reason : Unrequestable t e) (request : Request) : ¬t.Makes request := by
  intro makes
  cases reason with
  | method unshown =>
    obtain ⟨method, given, -⟩ := makes.method
    cases unshown.symm.trans given
  | headers written deep =>
    have decoded := makes.headers
    simp [decodeHeaders, written, headerTemplates_of_tooDeep deep] at decoded
  | header written unfilled =>
    have decoded := makes.headers
    simp [decodeHeaders, written, unfilled] at decoded
  | body given post held deep =>
    obtain ⟨method, given', is⟩ := makes.method
    obtain rfl := Except.ok.inj (given.symm.trans given')
    have decoded := makes.posted (is.trans post)
    simp [held, decodeBody_of_tooDeep deep] at decoded

theorem headers_of_noJson {request : Request} (makes : t.Makes request) {text : String}
    (written : t.node.settings.get? "headers" = some (.str text)) (noJson : ∀ v, Json.read Stack.settingText text ≠ .ok v) :
    request.headers = [] := by
  have decoded := makes.headers
  rw [written, Option.getD_some] at decoded
  rcases headerTemplates_cases text with ⟨opening, -, is⟩ | ⟨templates, is, none⟩
  · simp [decodeHeaders, is] at decoded
  · simp only [decodeHeaders, is, none noJson] at decoded
    exact (Except.ok.inj decoded).symm

theorem body_of_noJson {request : Request} (makes : t.Makes request) (post : request.method = "POST")
    {text : String} (held : t.setting "body" = .str text) (noJson : ∀ v, Json.read Stack.settingText text ≠ .ok v) :
    request.body = .dict [] := by
  have decoded := makes.posted post
  rw [held] at decoded
  rcases decodeBody_cases text with ⟨opening, -, is⟩ | ⟨body, is, empty⟩
  · cases is.symm.trans decoded
  · exact Except.ok.inj (is.symm.trans decoded) ▸ empty noJson

end Requests

section Runs

variable {σ : Type} (answer : Answerer σ) {t : Turn} {request : Request} (s : σ)

/-- With a request the node ends by the answer to it. -/
theorem run_handleHttp (made : requestOf t = .ok request) :
    Handled.ofResult ((handleHttp t).run answer s).1 =
      .ofAnswer request ((exchange t request).run answer s).1 := by
  simp only [handleHttp, made, run_bind]
  cases ((exchange t request).run answer s).1 with
  | ok response => rfl
  | error e =>
    simp only [Handled.ofAnswer]
    cases request.url.text? <;> rfl

/-- Without a request the node fails for the reason, and nothing is sent. -/
theorem run_carryOut_of_error (http : t.node.kind? = some .http) {e : Failure}
    (failed : requestOf t = .error e) :
    ((carryOut t).run answer s).1 = some (.failure "Node execution failed" e.text) ∧
      requests ((carryOut t).trace answer s) = [] := by
  constructor
  · rw [run_carryOut http]
    simp only [handle, handleHttp, failed]
    rfl
  · rw [requests_carryOut answer http, handle, requests_handleHttp, failed]
    simp [Except.toOption]

end Runs

/-- An http node whose settings make a request makes this one, if there is a network, and ends by the answer
to it: with the body, the status and the headers of the response, or as a request that failed. Headers and
bodies that are no JSON are empty. The settings make no request just for one of four reasons, for one of
which the node then fails, without anything being sent. For its nesting no text is a reason that opens no
more lists and mappings than may be nested. -/
theorem http_node_ends_by_answer {t : Turn} (http : t.node.kind? = some .http) {σ : Type}
    (answer : Answerer σ) (s : σ) :
    let ended := ((carryOut t).run answer s).1
    let sent := requests ((carryOut t).trace answer s)
    ((∀ e, ¬Unrequestable t e) → ∃ request, t.Makes request ∧
      (t.online = true → sent = [request] ∧
        ended = some (.ofAnswer request (answer (.send request) s).1)) ∧
      (t.online = false → sent = [] ∧ ∃ e, e.text = "No HTTP transport configured" ∧
        ended = some (.ofAnswer request (.error e))) ∧
      (∀ text, t.node.settings.get? "headers" = some (.str text) →
        (∀ v, Json.read Stack.settingText text ≠ .ok v) → request.headers = []) ∧
      ∀ text, t.setting "body" = .str text → (∀ v, Json.read Stack.settingText text ≠ .ok v) →
        request.method = "POST" → request.body = .dict []) ∧
    (∀ e, Unrequestable t e → ∃ f, Unrequestable t f ∧
      ended = some (.failure "Node execution failed" f.text) ∧ sent = []) ∧
    ∀ text opening, Json.read Stack.settingText text = .error (.tooDeep opening) →
      Stack.settingText < Json.openings text.toList := by
  intro ended sent
  refine ⟨?_, ?_, fun _ _ deep => Json.openings_of_tooDeep deep⟩
  · intro requestable
    obtain ⟨request, made⟩ : ∃ request, requestOf t = .ok request := by
      cases made : requestOf t with
      | ok request => exact ⟨request, rfl⟩
      | error e => exact absurd (unrequestable_of_requestOf made) (requestable e)
    have makes := requestOf_eq_ok_iff.mp made
    have ends : ended = some (.ofAnswer request ((exchange t request).run answer s).1) := by
      rw [← run_handleHttp answer s made]
      exact run_carryOut http s
    have sends : sent = if t.online then [request] else [] := by
      change requests ((carryOut t).trace answer s) = _
      rw [requests_carryOut answer http, handle, requests_handleHttp, made]
      rfl
    refine ⟨request, makes, fun online => ?_, fun offline => ?_, ?_, ?_⟩
    · simp only [exchange, online, if_true] at ends sends
      exact ⟨sends, ends⟩
    · simp only [exchange, offline] at ends sends
      exact ⟨sends, _, rfl, ends⟩
    · exact fun text written noJson => headers_of_noJson makes written noJson
    · exact fun text held noJson post => body_of_noJson makes post held noJson
  · intro e reason
    cases made : requestOf t with
    | ok request => exact absurd (requestOf_eq_ok_iff.mp made) (reason.not_makes request)
    | error f => exact ⟨f, unrequestable_of_requestOf made, run_carryOut_of_error answer s http made⟩

/-- A post whose headers and body are no JSON is sent without both, and fails as a request. -/
theorem http_node_ends_by_answer_refused :
    let node : Node :=
      { id := "h", type := "http",
        settings := [("method", .str "post"), ("headers", .str "["), ("body", .str "[1,")] }
    let t : Turn := ⟨node, node.settings, [], true⟩
    let s := Rehearsal.start { replies := [.error (.reported "ConnectionError" "refused")] } [] [] default
    t.node.kind? = some .http ∧
    ∃ request, requests ((carryOut t).trace Rehearsal.answer s) = [request] ∧
      request.headers = [] ∧ request.body = .dict [] ∧
      ((carryOut t).run Rehearsal.answer s).1 = some (.failure "HTTP request failed" "refused") := by
  intro node t s
  have http : t.node.kind? = some .http := by decide
  have upper : Text.upper "post" = "POST" := by decide +kernel
  have makes : t.Makes ⟨"POST", .str "", [], .dict []⟩ :=
    ⟨⟨"post", rfl, upper.symm⟩, rfl, rfl, fun _ => rfl, fun other => absurd rfl other⟩
  have requestable : ∀ e, ¬Unrequestable t e := fun _ reason => reason.not_makes _ makes
  obtain ⟨request, made, sent, -, headers, body⟩ :=
    (http_node_ends_by_answer http Rehearsal.answer s).1 requestable
  obtain rfl := Except.ok.inj ((requestOf_eq_ok_iff.mpr makes).symm.trans (requestOf_eq_ok_iff.mpr made))
  obtain ⟨sent, ended⟩ := sent rfl
  exact ⟨http, _, sent, rfl, rfl, ended⟩

/-- Headers that are nested too deep are no JSON either, and the node fails without a request. -/
theorem deep_headers_send_nothing :
    let text := String.ofList (List.replicate 20000 '[')
    let node : Node := { id := "h", type := "http", settings := [("headers", .str text)] }
    let t : Turn := ⟨node, node.settings, [], true⟩
    let s := Rehearsal.start {} [] [] default
    t.node.kind? = some .http ∧ (∀ v, Json.read Stack.settingText text ≠ .ok v) ∧
      ((carryOut t).run Rehearsal.answer s).1 = some (.failure "Node execution failed"
        (Failure.nestedTooDeep "array").text) ∧
      requests ((carryOut t).trace Rehearsal.answer s) = [] := by
  have deep : Json.read Stack.settingText (String.ofList (List.replicate 20000 '[')) =
      .error (.tooDeep .array) := Json.read_brackets (by decide)
  generalize String.ofList (List.replicate 20000 '[') = text at deep ⊢
  intro _ node t s
  have http : t.node.kind? = some .http := by
    change NodeKind.ofText? "http" = some .http
    decide
  have given : ((t.setting "method").orElse (.str "GET")).text? = .ok "GET" := rfl
  obtain ⟨ended, sent⟩ :=
    run_carryOut_of_error Rehearsal.answer s http (requestOf_of_deep_headers given rfl deep)
  refine ⟨http, fun v read => ?_, ended, sent⟩
  cases deep.symm.trans read

end Automation
