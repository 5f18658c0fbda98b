import Automation.Proofs.GraphIndex
import Automation.Proofs.RoundTrip
import Automation.Proofs.Substitution
import Automation.Proofs.Visit
import Automation.Run.Rehearsal

/-!
Data handed on from node to node. An http node that posts the output of another, named by a placeholder
as its whole body, sends what the other left behind: the output is inserted as text and read from the
text again, and nothing of it is lost on the way.
-/
namespace Automation

open Placeholder (Spells)

/-- Data that is put together from other data. -/
inductive Value.Composite : Value → Prop
  | list (items : List Value) : Composite (.list items)
  | dict (fields : Fields Value) : Composite (.dict fields)

theorem Value.inserted_exact {room : Nat} {v : Value} (composite : v.Composite) (exact : v.Exact)
    (shallow : v.depth ≤ room) : v.inserted room = .ok (Json.write Json.compact v) := by
  have fits : v.fits room = true := by simp [Value.fits, shallow, exact.isWritable]
  cases composite <;> exact writtenIn_of_fits fits _ _

theorem Http.decodeBody_write {v : Value} (composite : v.Composite) (exact : v.Exact)
    (shallow : v.depth ≤ Stack.settingText) : decodeBody (.str (Json.write Json.compact v)) = .ok v := by
  have read := Json.read_write Json.compact_readable exact shallow
  cases composite <;> simp [decodeBody, decode?, read]

/-- A text that is a placeholder and nothing else becomes what the placeholder stands for. -/
theorem Outputs.resolveText_eq {p : Placeholder} {text : String} (spelt : Spells p text.toList)
    (outputs : Outputs) (room : Nat) :
    outputs.resolveText room text = (outputs.inserted room p).map String.ofList := by
  obtain ⟨c, cs, whole⟩ := List.exists_cons_of_ne_nil spelt.ne_nil
  have found : Placeholder.read? text.toList = some (p, []) :=
    Placeholder.read?_eq_some_iff.mpr ⟨_, spelt, by simp⟩
  rw [whole] at found
  rw [resolveText, whole, pieces_of_read found]
  cases inserted : outputs.inserted room p <;>
    simp [pieces, fill, inserted, bind, Except.bind, Except.map]

/-- A text that is a placeholder and nothing else has what it refers to inserted. -/
theorem Outputs.resolveText_of_spells {outputs : Outputs} {room : Nat} {p : Placeholder} {text t : String}
    (spelt : Spells p text.toList)
    (held : (outputs.lookup (String.ofList p.node) (String.ofList p.key)).inserted room = .ok t) :
    outputs.resolveText room text = .ok t := by
  rw [resolveText_eq spelt, inserted, held]
  simp [Except.map]

/-- What ends well has ended well in its first part. -/
theorem ok_of_bind_ok {ε α β : Type} {x : Except ε α} {f : α → Except ε β} {b : β}
    (h : x >>= f = .ok b) : ∃ a, x = .ok a ∧ f a = .ok b := by
  cases x with
  | error e => cases h
  | ok a => exact ⟨a, rfl, h⟩

/-- Settings that can be substituted are substituted one by one. -/
theorem Outputs.exists_resolve {outputs : Outputs} {room : Nat} {fields settings : Fields Value}
    (resolved : outputs.resolveFields room fields = .ok settings) {key : String} {v : Value}
    (there : fields.get? key = some v) :
    ∃ v', outputs.resolve room v = .ok v' ∧ settings.get? key = some v' := by
  induction fields generalizing settings with
  | nil => cases there
  | cons field fields ih =>
    obtain ⟨k, u⟩ := field
    rw [resolveFields] at resolved
    obtain ⟨u', first, resolved⟩ := ok_of_bind_ok resolved
    obtain ⟨rest, others, resolved⟩ := ok_of_bind_ok resolved
    obtain rfl : (k, u') :: rest = settings := Except.ok.inj resolved
    by_cases here : key = k
    · simp only [Fields.get?_cons, here, if_true] at there ⊢
      exact ⟨u', Option.some.inj there ▸ first, rfl⟩
    · simp only [Fields.get?_cons, here, if_false] at there ⊢
      exact ih others there

theorem Outputs.get?_resolveFields {outputs : Outputs} {room : Nat} {fields settings : Fields Value}
    (resolved : outputs.resolveFields room fields = .ok settings) {key : String} {v v' : Value}
    (there : fields.get? key = some v) (inserted : outputs.resolve room v = .ok v') :
    settings.get? key = some v' := by
  obtain ⟨u, first, given⟩ := exists_resolve resolved there
  rw [inserted] at first
  cases first
  exact given

/-- An http node sends the request that its settings make, if there is a network. -/
theorem requests_handleHttp {σ : Type} (answer : Answerer σ) (t : Turn) (s : σ) :
    requests ((handleHttp t).trace answer s) =
      if t.online then (requestOf t).toOption.toList else [] := by
  unfold handleHttp
  cases made : requestOf t with
  | error e => simp [Except.toOption, requests, Proc.trace]
  | ok request =>
    simp only
    rw [requests_bind answer]
    · cases online : t.online <;> simp [exchange, online, Except.toOption] <;> rfl
    · intro result
      split
      · exact .done _
      · split
        · exact .done _
        · exact .bind (.ask trivial) fun _ => .done _

/-- The requests of an http node at its turn. -/
theorem requests_visit_http {σ : Type} (answer : Answerer σ) {run : RunContext} {outputs : Outputs}
    {node : Node} (http : node.kind? = some .http) {settings : Fields Value}
    (resolved : outputs.resolveFields Stack.setting node.settings = .ok settings) (s : σ) :
    requests ((visit run outputs node).trace answer s) =
      if run.online then (requestOf ⟨node, settings, outputs, run.online⟩).toOption.toList else [] := by
  rw [requests_visit answer resolved, requests_carryOut answer http, handle, requests_handleHttp]

/-- An http node that is about to post: there is a network, its settings and its headers can be
substituted, and its method is a POST. -/
structure Posting (run : RunContext) (outputs : Outputs) (node : Node) (settings headers : Fields Value) :
    Prop where
  online : run.online = true
  resolved : outputs.resolveFields Stack.setting node.settings = .ok settings
  post : ∃ method, (((settings.get? "method").getD .null).orElse (.str "GET")).text? = .ok method ∧
    Text.upper method = "POST"
  headers : Http.decodeHeaders outputs ((node.settings.get? "headers").getD .null) = .ok headers

/-- The request that a node makes, part by part: the address and the body come from its settings as they
are substituted, the headers from its settings as they were written. -/
structure Turn.Makes (t : Turn) (request : Http.Request) : Prop where
  method : ∃ method, ((t.setting "method").orElse (.str "GET")).text? = .ok method ∧
    request.method = Text.upper method
  url : request.url = (t.setting "url").orElse (.str "")
  headers : Http.decodeHeaders t.outputs ((t.node.settings.get? "headers").getD .null) = .ok request.headers
  posted : request.method = "POST" → Http.decodeBody (t.setting "body") = .ok request.body
  unposted : request.method ≠ "POST" → request.body = .null

theorem requestOf_eq_ok_iff {t : Turn} {request : Http.Request} :
    requestOf t = .ok request ↔ t.Makes request := by
  constructor
  · intro made
    obtain ⟨method, text, made⟩ := ok_of_bind_ok made
    obtain ⟨headers, decoded, made⟩ := ok_of_bind_ok made
    by_cases upper : Text.upper method = "POST"
    · simp only [if_pos upper] at made
      obtain ⟨body, posted, made⟩ := ok_of_bind_ok made
      obtain rfl := Except.ok.inj made
      exact ⟨⟨method, text, rfl⟩, rfl, decoded, fun _ => posted, fun other => absurd upper other⟩
    · simp only [if_neg upper] at made
      obtain ⟨body, unposted, made⟩ := ok_of_bind_ok made
      obtain rfl := Except.ok.inj made
      obtain rfl := Except.ok.inj unposted
      exact ⟨⟨method, text, rfl⟩, rfl, decoded, fun post => absurd post upper, fun _ => rfl⟩
  · rintro ⟨⟨method, text, upper⟩, url, headers, posted, unposted⟩
    obtain ⟨_, _, _, _⟩ := request
    simp only at upper url headers posted unposted
    by_cases post : Text.upper method = "POST"
    · simp [requestOf, text, headers, post, posted (upper.trans post), upper, url, bind, Except.bind]
    · simp [requestOf, text, headers, post, unposted (upper ▸ post), upper, url, bind, Except.bind]

theorem requestOf_posting {run : RunContext} {outputs : Outputs} {node : Node}
    {settings headers : Fields Value} (posting : Posting run outputs node settings headers)
    {body v : Value} (given : settings.get? "body" = some body) (decoded : Http.decodeBody body = .ok v) :
    requestOf ⟨node, settings, outputs, run.online⟩ =
      .ok ⟨"POST", ((settings.get? "url").getD .null).orElse (.str ""), headers, v⟩ := by
  obtain ⟨method, text, upper⟩ := posting.post
  have held : Turn.setting ⟨node, settings, outputs, run.online⟩ "body" = body := by
    simp [Turn.setting, given]
  exact requestOf_eq_ok_iff.mpr
    ⟨⟨method, text, upper.symm⟩, rfl, posting.headers, fun _ => held ▸ decoded, fun other => absurd rfl other⟩

/-- Data is handed on without loss. Let the output of a node hold a list or a mapping that JSON holds
exactly and that is not nested too deep to be written into a setting, and let the body of an http node be a placeholder of
it and nothing else. Then the text that is inserted is read as that data again; no post of the node has
another body, and where the node is about to post, that one request is what it makes. -/
theorem post_forwards_output {σ : Type} (answer : Answerer σ) {run : RunContext} {outputs : Outputs}
    {p : Placeholder} {fields : Fields Value} {v : Value}
    (kept : outputs.get? (String.ofList p.node) = some (.dict fields))
    (entry : fields.get? (String.ofList p.key) = some v) (composite : v.Composite) (exact : v.Exact)
    (shallow : v.depth ≤ Stack.setting) {text : String} (spelt : Spells p text.toList) {node : Node}
    (http : node.kind? = some .http) (body : node.settings.get? "body" = some (.str text)) (s : σ) :
    (∃ written, v.inserted Stack.setting = .ok written ∧
      outputs.resolve Stack.setting (.str text) = .ok (.str written) ∧ Http.decodeBody (.str written) = .ok v) ∧
    (∀ request ∈ requests ((visit run outputs node).trace answer s),
      request.method = "POST" → request.body = v) ∧
    ∀ settings headers, Posting run outputs node settings headers →
      requests ((visit run outputs node).trace answer s) =
        [⟨"POST", ((settings.get? "url").getD .null).orElse (.str ""), headers, v⟩] := by
  have written := Value.inserted_exact composite exact shallow
  have decoded := Http.decodeBody_write composite exact (Nat.le_trans shallow (by decide))
  have held : (outputs.lookup (String.ofList p.node) (String.ofList p.key)).inserted Stack.setting =
      .ok (Json.write Json.compact v) := by
    simp [Outputs.lookup, kept, entry, written]
  have resolved : outputs.resolve Stack.setting (.str text) = .ok (.str (Json.write Json.compact v)) := by
    simp [Outputs.resolve, Outputs.resolveText_of_spells spelt held]
  refine ⟨⟨_, written, resolved, decoded⟩, ?_, ?_⟩
  · intro request sent post
    cases substituted : outputs.resolveFields Stack.setting node.settings with
    | error e =>
      rw [visit_of_error substituted] at sent
      cases sent
    | ok settings =>
      have given := Outputs.get?_resolveFields substituted body resolved
      rw [requests_visit_http answer http substituted] at sent
      cases made : requestOf ⟨node, settings, outputs, run.online⟩ with
      | error e => simp [made, Except.toOption] at sent
      | ok only =>
        obtain rfl : request = only := by
          simp only [made, Except.toOption, Option.toList_some] at sent
          split at sent
          · exact List.mem_singleton.mp sent
          · cases sent
        have read := (requestOf_eq_ok_iff.mp made).posted post
        simp only [Turn.setting, given, Option.getD_some, decoded, Except.ok.injEq] at read
        exact read.symm
  · intro settings headers posting
    have given := Outputs.get?_resolveFields posting.resolved body resolved
    rw [requests_visit_http answer http posting.resolved, requestOf_posting posting given decoded,
      posting.online]
    rfl

/-- A list with a negative integer, characters that are written as escapes, and a mapping is posted. -/
theorem post_forwards_output_list :
    let v : Value := .list [.int (-12), .str "a\"\né😀", .dict [("x", .null), ("b", .bool true)]]
    let outputs : Outputs := [("n", .dict [("k", v)])]
    let p : Placeholder := ⟨['n'], ['k']⟩
    let text := "\x7b\x7b context.outputs.n.k \x7d\x7d"
    let node : Node :=
      { id := "h", type := "http", settings := [("method", .str "post"), ("body", .str text)] }
    let run : RunContext := ⟨"e", Graph.build [node] [], true⟩
    v.Composite ∧ v.Exact ∧ v.depth ≤ Stack.setting ∧ Spells p text.toList ∧
      requests ((visit run outputs node).trace Rehearsal.answer (.start {} [] [] default)) =
        [⟨"POST", .str "", [], v⟩] := by
  intro v outputs p text node run
  have composite : v.Composite := .list _
  have short : Number.digitCount (-12) ≤ Number.maxDigits := by decide +kernel
  have mapping : (Value.dict [("x", .null), ("b", .bool true)]).Exact := by
    refine .dict (by decide) ?_
    simp [Value.Exact.null, Value.Exact.bool]
  have exact : v.Exact := by
    refine .list ?_
    simp [Value.Exact.int short, Value.Exact.str, mapping]
  have shallow : v.depth ≤ Stack.setting := by decide +kernel
  have blank : ∀ c ∈ [' '], Text.isBlank c = true := List.forall_mem_singleton.mpr (by decide)
  have name : ∀ c ∈ ['n'], c ≠ '.' ∧ c ≠ '\x7d' ∧ Text.isBlank c = false :=
    List.forall_mem_singleton.mpr (by decide)
  have within : ∀ c ∈ ['k', ' '], c ≠ '\x7d' := by simp
  have keyed : Placeholder.KeyIn ([] ++ ['k'] ++ [' ']) ([] ++ ['k']) := .trimmed (by decide) blank
  have whole : text.toList = ['\x7b', '\x7b'] ++ [' '] ++ "context.outputs.".toList ++ ['n'] ++ ['.'] ++
      ['k', ' '] ++ ['\x7d', '\x7d'] := by decide
  have spelt : Spells p text.toList := by
    rw [whole]
    exact .spelt blank (List.cons_ne_nil _ _) name within keyed
  have plain : outputs.resolveText Stack.setting "post" = .ok "post" := by cbv
  have inserted : outputs.resolveText Stack.setting text = .ok (Json.write Json.compact v) :=
    Outputs.resolveText_of_spells spelt (Value.inserted_exact composite exact shallow)
  have resolved : outputs.resolveFields Stack.setting node.settings =
      .ok [("method", .str "post"), ("body", .str (Json.write Json.compact v))] := by
    simp [node, Outputs.resolveFields, Outputs.resolve, plain, inserted, bind, Except.bind]
  have posting : Posting run outputs node _ [] := ⟨rfl, resolved, ⟨"post", rfl, by decide +kernel⟩, rfl⟩
  have posted := (post_forwards_output Rehearsal.answer rfl rfl composite exact shallow spelt
    (by decide : node.kind? = some .http) rfl (.start {} [] [] default)).2.2 _ _ posting
  exact ⟨composite, exact, shallow, spelt, posted⟩

end Automation
