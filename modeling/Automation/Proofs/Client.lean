import Automation.Proofs.Nesting
import Automation.Http.Client
import Mathlib.Data.List.Nodup

/-!
One request over a session. Unless a header cannot be written, the session is called once, with the texts of
all headers, and with the body just where the method is a POST in any spelling. The answer to this call
settles what the request is answered with: a response with its body as data where it is JSON and as it is
where it is not, or the failure of a request that did not get through.
-/
namespace Automation.Http

open Json (Nesting)

section Calls

theorem methodName_eq_post_iff (method : String) :
    methodName method = "POST" ↔ Text.upper method = "POST" := by
  have get : Text.upper "GET" ≠ "POST" := by decide +kernel
  have none : Text.upper "" ≠ "POST" := by decide +kernel
  unfold methodName
  split
  · next empty => simp [empty, get, none]
  · exact Iff.rfl

/-- Headers that can be shown are texts under their names. -/
theorem headerTexts_eq {headers : Fields Value} (fit : ∀ p ∈ headers, p.2.fits Stack.shown = true) :
    headerTexts headers = .ok (headers.map fun p => (p.1, p.2.text)) := by
  induction headers with
  | nil => rfl
  | cons p rest ih =>
    have others := ih fun q there => fit q (List.mem_cons_of_mem _ there)
    rw [headerTexts, Value.text?_of_fits (fit p List.mem_cons_self), others]
    rfl

/-- The first header that cannot be shown fails them all. -/
theorem headerTexts_unfit {headers : Fields Value} {p : String × Value} (there : p ∈ headers)
    (unfit : p.2.fits Stack.shown = false) :
    ∃ q ∈ headers, ∃ e, q.2.text? = .error e ∧ headerTexts headers = .error e := by
  induction headers with
  | nil => cases there
  | cons q rest ih =>
    cases shown : q.2.text? with
    | error e => exact ⟨q, List.mem_cons_self, e, shown, by rw [headerTexts, shown]⟩
    | ok text =>
      rcases List.mem_cons.mp there with rfl | there
      · obtain ⟨e, failed, -⟩ := Value.text?_of_not_fits unfit
        cases shown.symm.trans failed
      · obtain ⟨first, among, e, failed, all⟩ := ih there
        exact ⟨first, List.mem_cons_of_mem _ among, e, failed, by rw [headerTexts, shown, all]; rfl⟩

/-- The call that carries a request to the session. -/
structure SessionCall.Carries (call : SessionCall) (timeout : Value) (r : Request) : Prop where
  url : call.url = r.url
  timeout : call.timeout = timeout
  headers : call.headers = r.headers.map fun p => (p.1, p.2.text)
  verb : call.verb = .post ↔ Text.upper r.method = "POST"
  posted : Text.upper r.method = "POST" → call.json = some r.body
  unposted : Text.upper r.method ≠ "POST" → call.json = none

/-- A request whose headers can be shown becomes a call. -/
theorem sessionCall_carries (timeout : Value) {r : Request}
    (fit : ∀ p ∈ r.headers, p.2.fits Stack.shown = true) :
    ∃ call, sessionCall timeout r = .ok call ∧ call.Carries timeout r := by
  have posts := methodName_eq_post_iff r.method
  have made : sessionCall timeout r = .ok
      { url := r.url, headers := r.headers.map (fun p => (p.1, p.2.text)), timeout
        json := if methodName r.method = "POST" then some r.body else none } := by
    rw [sessionCall, headerTexts_eq fit]
    rfl
  refine ⟨_, made, rfl, rfl, rfl, ?_, fun upper => ?_, fun upper => ?_⟩
  · rw [← posts]
    by_cases post : methodName r.method = "POST" <;> simp [SessionCall.verb, post]
  · simp only [posts.mpr upper, if_true]
  · simp only [mt posts.mp upper, if_false]

theorem sessionCall_unfit (timeout : Value) {r : Request} {p : String × Value} (there : p ∈ r.headers)
    (unfit : p.2.fits Stack.shown = false) :
    ∃ q ∈ r.headers, ∃ e, q.2.text? = .error e ∧ sessionCall timeout r = .error e := by
  obtain ⟨q, among, e, failed, all⟩ := headerTexts_unfit there unfit
  exact ⟨q, among, e, failed, by rw [sessionCall, all]; rfl⟩

end Calls

section Answers

/-- The headers of a response, their names told apart without regard to case. -/
def collected (headers : Fields Value) : Fields Value :=
  headers.foldl (fun hs (k, v) => insertHeader k v hs) []

theorem insertHeader_new {name : String} {value : Value} {headers : Fields Value}
    (new : ∀ p ∈ headers, Text.lower p.1 ≠ Text.lower name) :
    insertHeader name value headers = headers ++ [(name, value)] := by
  induction headers with
  | nil => rfl
  | cons p rest ih =>
    have others := ih fun q there => new q (List.mem_cons_of_mem _ there)
    rw [insertHeader, if_neg (new p List.mem_cons_self), others]
    rfl

theorem foldl_insertHeader {headers kept : Fields Value}
    (distinct : ((kept ++ headers).map fun p => Text.lower p.1).Nodup) :
    headers.foldl (fun hs (k, v) => insertHeader k v hs) kept = kept ++ headers := by
  induction headers generalizing kept with
  | nil => simp
  | cons p rest ih =>
    obtain ⟨name, value⟩ := p
    have new : ∀ p ∈ kept, Text.lower p.1 ≠ Text.lower name := by
      simp only [List.map_append, List.map_cons, List.nodup_append] at distinct
      intro p there
      exact distinct.2.2 _ (List.mem_map_of_mem there) _ List.mem_cons_self
    simp only [List.foldl_cons, insertHeader_new new]
    rw [ih (by simpa using distinct), List.append_assoc]
    rfl

/-- Headers whose names differ in more than case are kept as they are. -/
theorem collected_of_distinct {headers : Fields Value}
    (distinct : (headers.map fun p => Text.lower p.1).Nodup) : collected headers = headers :=
  foldl_insertHeader distinct

/-- What a request is answered with, by what the session answers to its call. -/
inductive Settles (r : Request) : Except Failure RawResponse → Except Failure Response → Prop
  /-- The text of the response is JSON. -/
  | json {raw v} (read : Json.read Stack.reply raw.text = .ok v) (named : r.url.fits Stack.shown = true) :
      Settles r (.ok raw) (.ok ⟨raw.status, v, collected raw.headers⟩)
  /-- The text of the response is no JSON. -/
  | text {raw} (noJson : ∀ v, Json.read Stack.reply raw.text ≠ .ok v)
      (shallow : ∀ opening, Json.read Stack.reply raw.text ≠ .error (.tooDeep opening))
      (named : r.url.fits Stack.shown = true) :
      Settles r (.ok raw) (.ok ⟨raw.status, .str raw.text, collected raw.headers⟩)
  | tooDeep {raw opening} (deep : Json.read Stack.reply raw.text = .error (.tooDeep opening)) :
      Settles r (.ok raw) (.error (.nestedTooDeep (nestingName opening)))
  /-- The address cannot be shown, and so no note is made of the response. -/
  | unnamed {raw e} (shallow : ∀ opening, Json.read Stack.reply raw.text ≠ .error (.tooDeep opening))
      (unfit : r.url.text? = .error e) : Settles r (.ok raw) (.error e)
  /-- The call failed, and so does the request. -/
  | unreachable {f} (network : isNetworkFailure f = true) (named : r.url.fits Stack.shown = true) :
      Settles r (.error f) (.error (unreachable (methodName r.method) r.url f))
  | unnamedFailure {f e} (network : isNetworkFailure f = true) (unfit : r.url.text? = .error e) :
      Settles r (.error f) (.error e)
  | passedOn {f} (other : isNetworkFailure f = false) : Settles r (.error f) (.error f)

/-- What is concluded names the call that was made. -/
theorem call_conclude (method : String) (call : SessionCall) (answer : Except Failure RawResponse) :
    (conclude method call answer).call = some call := by
  unfold conclude
  split
  · split <;> rfl
  · rfl
  · split <;> rfl

theorem text?_cases (url : Value) :
    (url.fits Stack.shown = true ∧ url.text? = .ok url.text) ∨ ∃ e, url.text? = .error e := by
  cases fits : url.fits Stack.shown with
  | true => exact .inl ⟨rfl, Value.text?_of_fits fits⟩
  | false =>
    obtain ⟨e, failed, -⟩ := Value.text?_of_not_fits fits
    exact .inr ⟨e, failed⟩

theorem responseBody_of_tooDeep {text : String} {opening : Nesting}
    (deep : Json.read Stack.reply text = .error (.tooDeep opening)) :
    responseBody text = .error (.nestedTooDeep (nestingName opening)) := by
  rw [responseBody, deep]
  cases opening <;> rfl

theorem conclude_settles {r : Request} {call : SessionCall} (url : call.url = r.url)
    (answer : Except Failure RawResponse) :
    Settles r answer (conclude (methodName r.method) call answer).answer := by
  cases answer with
  | error f =>
    cases network : isNetworkFailure f with
    | false =>
      rcases text?_cases r.url with ⟨named, address⟩ | ⟨e, address⟩ <;>
        simpa [conclude, url, address, network] using .passedOn network
    | true =>
      rcases text?_cases r.url with ⟨named, address⟩ | ⟨e, address⟩
      · simpa [conclude, url, address, network] using .unreachable network named
      · simpa [conclude, url, address, network] using .unnamedFailure network address
  | ok raw =>
    simp only [conclude, url, decodeResponse]
    cases read : Json.read Stack.reply raw.text with
    | ok v =>
      rcases text?_cases r.url with ⟨named, address⟩ | ⟨e, address⟩
      · simpa [responseBody, read, address, Except.map] using .json read named
      · simpa [responseBody, read, address, Except.map] using .unnamed (by simp [read]) address
    | error wrong =>
      cases wrong with
      | tooDeep opening =>
        rw [responseBody_of_tooDeep read]
        exact .tooDeep read
      | malformed | tooManyDigits =>
        rcases text?_cases r.url with ⟨named, address⟩ | ⟨e, address⟩
        · simpa [responseBody, read, address, Except.map] using
            .text (by simp [read]) (by simp [read]) named
        · simpa [responseBody, read, address, Except.map] using .unnamed (by simp [read]) address

theorem answer_of_deep {σ : Type} {timeout : Value} {session : Session σ} {r : Request} {s : σ}
    {call : SessionCall} {raw : RawResponse} {opening : Nesting} (called : sessionCall timeout r = .ok call)
    (answered : (session call s).1 = .ok raw)
    (deep : Json.read Stack.reply raw.text = .error (.tooDeep opening)) :
    (exchangeOver timeout session r s).1.answer = .error (.nestedTooDeep (nestingName opening)) := by
  simp only [exchangeOver, called, answered, conclude, decodeResponse, responseBody_of_tooDeep deep, Except.map]

end Answers

/-- A request whose headers can all be shown is one call of the session, with its address, the texts of its
headers, and its body just where the upper case of its method is that of a post; and the answer to this call
settles what comes of the request. A response is passed on, with its body as data where its text is JSON and
as its text where it is not, and a failure of the network is the failure of an engine error. The exceptions
are a text that is nested too deep, which is lost with its response, and an address that cannot be shown.
A request with a header that cannot be shown is no call at all. -/
theorem request_is_one_call {σ : Type} (timeout : Value) (session : Session σ) (r : Request) (s : σ) :
    let done := exchangeOver timeout session r s
    ((∀ p ∈ r.headers, p.2.fits Stack.shown = true) → ∃ call : SessionCall,
      done.1.call = some call ∧ done.2 = (session call s).2 ∧ call.Carries timeout r ∧
      Settles r (session call s).1 done.1.answer) ∧
    (∀ p ∈ r.headers, p.2.fits Stack.shown = false →
      done.1.call = none ∧ done.2 = s ∧
        ∃ q ∈ r.headers, ∃ e, q.2.text? = .error e ∧ done.1.answer = .error e) ∧
    (∀ f, (unreachable (methodName r.method) r.url f).kind = "HttpTransportError") ∧
    (∀ headers : Fields Value, (headers.map fun p => Text.lower p.1).Nodup → collected headers = headers) ∧
    ∀ text opening, Json.read Stack.reply text = .error (.tooDeep opening) →
      Stack.reply < Json.openings text.toList := by
  intro done
  refine ⟨fun fit => ?_, fun p there unfit => ?_, fun _ => rfl, fun _ => collected_of_distinct,
    fun _ _ => Json.openings_of_tooDeep⟩
  · obtain ⟨call, called, carries⟩ := sessionCall_carries timeout fit
    have is : done = (conclude (methodName r.method) call (session call s).1, (session call s).2) := by
      simp only [done, exchangeOver, called]
    refine ⟨call, by rw [is, call_conclude], by rw [is], carries, ?_⟩
    rw [is]
    exact conclude_settles carries.url _
  · obtain ⟨q, among, e, failed, uncalled⟩ := sessionCall_unfit timeout there unfit
    have is : done = ({ answer := .error e }, s) := by simp only [done, exchangeOver, uncalled]
    exact ⟨by rw [is], by rw [is], q, among, e, failed, by rw [is]⟩

/-- A response whose text is nested too deep is no answer, although the session was called. -/
theorem deep_response_is_lost :
    let text := String.ofList (List.replicate 20000 '[')
    let session : Session Nat := fun _ calls => (.ok ⟨200, text, []⟩, calls + 1)
    let done := exchangeOver standardTimeout session ⟨"GET", .str "u", [], .null⟩ 0
    (∀ v, Json.read Stack.reply text ≠ .ok v) ∧ done.2 = 1 ∧
      done.1.answer = .error (.nestedTooDeep "array") := by
  have deep : Json.read Stack.reply (String.ofList (List.replicate 20000 '[')) = .error (.tooDeep .array) :=
    Json.read_brackets (by decide)
  generalize String.ofList (List.replicate 20000 '[') = text at deep ⊢
  intro _ session done
  refine ⟨fun v read => ?_, rfl, ?_⟩
  · cases deep.symm.trans read
  · change done.1.answer = Except.error (.nestedTooDeep (nestingName .array))
    exact answer_of_deep rfl rfl deep

end Automation.Http
