import Automation.Proofs.Fields
import Automation.Service.Middleware

/-!
Requests that overlap. All requests are handled on one thread, each up to the points at which it waits,
and the fields in force belong to the thread: a request puts its own in force when it begins and takes
off all that there are when it ends. So at any time the fields are those of the request that began last,
or none if a request has ended since. A request whose endpoint waits while another begins or ends goes on
under the facts of the other, or under none.
-/
namespace Automation.Service

open Journal (Record Entry Tape)

/-- What happens to a request on the thread of the service. Each moment leaves one record. -/
inductive Moment where
  | begins (r : Request)
  /-- Someone leaves a record on behalf of the request. -/
  | notes (r : Request) (record : Record)
  | ends (r : Request) (took : Duration) (result : Result)

namespace Moment

def request : Moment → Request
  | .begins r | .notes r _ | .ends r _ _ => r

def record : Moment → Record
  | .begins r => Journal.note .info .middleware s!"Request started: {r.title}"
  | .notes _ record => record
  | .ends r took result => outcomeNote r took result

/-- What the thread does to its journal. -/
def steps : Moment → List Tape.Step
  | .begins r => [.enter r.fields, .write (begins r).record]
  | .notes _ record => [.write record]
  | .ends r took result => [.write (outcomeNote r took result), .leave]

/-- Whether the fields in force change. -/
def turns : Moment → Bool
  | .notes _ _ => false
  | _ => true

/-- Whose fields are in force after it, by whose they were before it. -/
def holder (held : Option Request) : Moment → Option Request
  | .begins r => some r
  | .notes _ _ => held
  | .ends _ _ _ => none

/-- Whose fields its record carries. -/
def shown (held : Option Request) : Moment → Option Request
  | .begins r => some r
  | _ => held

end Moment

/-- Several notes on behalf of a request. -/
def notesOf (r : Request) (records : List Record) : List Moment := records.map fun record => .notes r record

/-- What is done before an endpoint is called: a detail, and the request begins. -/
theorem opening_eq (r : Request) :
    ∃ detail, opening r = [Moment.notes r detail, .begins r].flatMap (·.steps) := ⟨_, rfl⟩

/-- What is done after an endpoint is done: the request ends, and there are some remarks. -/
theorem closing_eq (r : Request) (took : Duration) (threshold : Value) (now : Instant) (result : Result) :
    ∃ remarks, closing r took threshold now result =
      (.ends r took result :: notesOf r remarks).flatMap (·.steps) := by
  unfold closing
  split
  · exact ⟨[slowNote r took threshold, _], rfl⟩
  · exact ⟨[_], rfl⟩

/-- The journal of a thread on which this happens. -/
def played (moments : List Moment) : Tape := ({} : Tape).performAll (moments.flatMap (·.steps))

/-- Whose fields are in force after several moments. -/
def holderAfter (moments : List Moment) : Option Request := moments.foldl Moment.holder none

/-- The fields in force, by whose they are. -/
def fieldsOf (held : Option Request) : Fields Value := held.elim [] Request.fields

/-- An entry carries the facts of a request. -/
def Carries (entry : Entry) (r : Request) : Prop :=
  entry.fields.get? "request_id" = some (.str r.id) ∧
  entry.fields.get? "method" = some (.str r.method) ∧
  entry.fields.get? "path" = some (.str r.shownPath)

/-- The fields of a request take the place of those of any other. -/
theorem update_fields (held : Option Request) (r : Request) : (fieldsOf held).update r.fields = r.fields := by
  cases held with
  | none => rfl
  | some other => simp [fieldsOf, Request.fields, Fields.update, Fields.insert]

theorem carries_iff (held : Option Request) (r : Request) (record : Record) :
    Carries ⟨record, fieldsOf held⟩ r ↔
      ∃ other, held = some other ∧ other.id = r.id ∧ other.method = r.method ∧
        other.shownPath = r.shownPath := by
  cases held with
  | none => simp [Carries, fieldsOf]
  | some other => simp [Carries, fieldsOf, Request.fields, Fields.get?_cons]

/-- One moment leaves its record, under the fields that are in force then. -/
theorem performAll_moment (entries : List Entry) (held : Option Request) (m : Moment) :
    (Tape.mk entries (fieldsOf held)).performAll m.steps =
      ⟨entries ++ [⟨m.record, fieldsOf (m.shown held)⟩], fieldsOf (m.holder held)⟩ := by
  cases m with
  | begins r =>
    calc (Tape.mk entries (fieldsOf held)).performAll (Moment.begins r).steps
        = ((Tape.mk entries (fieldsOf held)).enter r.fields).write (Moment.begins r).record := rfl
      _ = _ := by rw [Tape.enter, update_fields]; rfl
  | notes r record => rfl
  | ends r took result => rfl

/-- The entries that several moments leave. -/
def entriesOf (held : Option Request) : List Moment → List Entry
  | [] => []
  | m :: rest => ⟨m.record, fieldsOf (m.shown held)⟩ :: entriesOf (m.holder held) rest

theorem performAll_moments (entries : List Entry) (held : Option Request) (moments : List Moment) :
    (Tape.mk entries (fieldsOf held)).performAll (moments.flatMap (·.steps)) =
      ⟨entries ++ entriesOf held moments, fieldsOf (moments.foldl Moment.holder held)⟩ := by
  induction moments generalizing entries held with
  | nil => simp [entriesOf, Tape.performAll]
  | cons m rest ih =>
    have first := performAll_moment entries held m
    rw [Tape.performAll] at first
    rw [List.flatMap_cons, Tape.performAll, List.foldl_append, first]
    refine (ih _ _).trans ?_
    simp [entriesOf]

/-- Every moment leaves an entry in its place, with the fields of the request that holds the thread. -/
theorem entries_played (before : List Moment) (m : Moment) (after : List Moment) :
    (played (before ++ m :: after)).entries[before.length]? =
      some ⟨m.record, fieldsOf (m.shown (holderAfter before))⟩ := by
  have all : ∀ moments, (played moments).entries = entriesOf none moments :=
    fun moments => congrArg Tape.entries (performAll_moments [] none moments)
  have place : ∀ held, (entriesOf held (before ++ m :: after))[before.length]? =
      some ⟨m.record, fieldsOf (m.shown (before.foldl Moment.holder held))⟩ := by
    induction before with
    | nil => exact fun held => rfl
    | cons first rest ih => exact fun held => ih (first.holder held)
  rw [all]
  exact place none

theorem entriesOf_append (held : Option Request) (a b : List Moment) :
    entriesOf held (a ++ b) = entriesOf held a ++ entriesOf (a.foldl Moment.holder held) b := by
  induction a generalizing held with
  | nil => rfl
  | cons m rest ih => exact congrArg (_ :: ·) (ih _)

theorem steps_notesOf (r : Request) (records : List Record) :
    (notesOf r records).flatMap (·.steps) = records.map .write := by
  rw [notesOf, List.flatMap_map]
  exact List.map_eq_flatMap.symm

/-- Notes leave the thread to its holder. -/
theorem holder_notesOf (held : Option Request) (r : Request) (records : List Record) :
    (notesOf r records).foldl Moment.holder held = held := by
  induction records with
  | nil => rfl
  | cons record rest ih => exact ih

theorem entriesOf_notesOf (held : Option Request) (r : Request) (records : List Record) :
    entriesOf held (notesOf r records) = records.map (⟨·, fieldsOf held⟩) := by
  induction records with
  | nil => rfl
  | cons record rest ih => exact congrArg (_ :: ·) ih

/-- A request that has the thread to itself carries its facts from its beginning to its end, whatever is
noted meanwhile, and leaves no field in force. -/
theorem performAll_alone (entries : List Entry) (r : Request) (noted : List Record) (took : Duration)
    (threshold : Value) (now : Instant) (result : Result) :
    ∃ (detail : Record) (remarks : List Record), (Tape.mk entries []).performAll
        (opening r ++ noted.map .write ++ closing r took threshold now result) =
      ⟨entries ++ ⟨detail, []⟩ ::
        (((Moment.begins r).record :: noted ++ [outcomeNote r took result]).map (⟨·, r.fields⟩) ++
          remarks.map (⟨·, []⟩)), []⟩ := by
  obtain ⟨detail, opens⟩ := opening_eq r
  obtain ⟨remarks, closes⟩ := closing_eq r took threshold now result
  have steps : opening r ++ noted.map .write ++ closing r took threshold now result =
      ([Moment.notes r detail, .begins r] ++ notesOf r noted ++
        Moment.ends r took result :: notesOf r remarks).flatMap (·.steps) := by
    rw [opens, closes, List.flatMap_append, List.flatMap_append, steps_notesOf]
  refine ⟨detail, remarks, ?_⟩
  rw [steps]
  refine (performAll_moments entries none _).trans ?_
  simp [entriesOf_append, entriesOf_notesOf, holder_notesOf, entriesOf, Moment.holder, Moment.shown,
    Moment.record, fieldsOf]

/-- Who holds the thread after several moments: who held it before, or whoever turned last. -/
theorem holder_foldl (held : Option Request) (moments : List Moment) :
    ((∀ m ∈ moments, m.turns = false) ∧ moments.foldl Moment.holder held = held) ∨
      ∃ m ∈ moments, m.turns = true ∧ moments.foldl Moment.holder held = m.holder none := by
  induction moments generalizing held with
  | nil => exact .inl ⟨fun _ none => absurd none List.not_mem_nil, rfl⟩
  | cons m rest ih =>
    rcases ih (m.holder held) with ⟨quiet, kept⟩ | ⟨last, there, turned, holds⟩
    · cases m with
      | notes r record => exact .inl ⟨List.forall_mem_cons.mpr ⟨rfl, quiet⟩, kept⟩
      | begins r => exact .inr ⟨.begins r, List.mem_cons_self, rfl, kept⟩
      | ends r took result => exact .inr ⟨.ends r took result, List.mem_cons_self, rfl, kept⟩
    · exact .inr ⟨last, List.mem_cons_of_mem _ there, turned, holds⟩

/-- A record of a request that has begun carries its facts just where no other request has begun or ended
since. -/
theorem carries_begun_iff {between : List Moment} {r : Request}
    (others : ∀ other ∈ between, other.turns = true → other.request.id ≠ r.id) (record : Record) :
    Carries ⟨record, fieldsOf (between.foldl Moment.holder (some r))⟩ r ↔
      ∀ other ∈ between, other.turns = false := by
  rw [carries_iff]
  rcases holder_foldl (some r) between with ⟨quiet, kept⟩ | ⟨last, there, turned, holds⟩
  · rw [kept]
    exact ⟨fun _ => quiet, fun _ => ⟨r, rfl, rfl, rfl, rfl⟩⟩
  · constructor
    · rintro ⟨other, shown, sameId, -, -⟩
      rw [holds] at shown
      cases last with
      | begins r' =>
        obtain rfl : r' = other := Option.some.inj shown
        exact absurd sameId (others _ there rfl)
      | notes _ _ | ends _ _ _ => cases shown
    · intro quiet
      rw [quiet last there] at turned
      cases turned

/-- A moment of a request at which it does not begin changes no fields before its record. -/
theorem shown_of_late {m : Moment} {r : Request} (own : m.request = r) (late : m ≠ .begins r)
    (held : Option Request) : m.shown held = held := by
  cases m with
  | begins r' =>
    obtain rfl : r' = r := own
    exact absurd rfl late
  | notes _ _ | ends _ _ _ => rfl

/-- However requests overlap: the record with which a request begins carries its facts, and a later record
of the request, also the one with which it ends, carries them just where no other request has begun or
ended since. Otherwise the record carries the facts of whichever request began last, or nothing. -/
theorem record_marked_iff_undisturbed (before between after : List Moment) (r : Request) (m : Moment)
    (own : m.request = r) (late : m ≠ .begins r)
    (others : ∀ other ∈ between, other.turns = true → other.request.id ≠ r.id) :
    let entries := (played (before ++ .begins r :: (between ++ m :: after))).entries
    (∃ started, entries[before.length]? = some started ∧
      started.record = (Moment.begins r).record ∧ Carries started r) ∧
    ∃ entry, entries[before.length + (between.length + 1)]? = some entry ∧ entry.record = m.record ∧
      entry.fields = (holderAfter (before ++ .begins r :: between)).elim [] Request.fields ∧
      (Carries entry r ↔ ∀ other ∈ between, other.turns = false) := by
  intro entries
  have start := entries_played before (.begins r) (between ++ m :: after)
  have later := entries_played (before ++ .begins r :: between) m after
  rw [List.append_assoc, List.cons_append, List.length_append, List.length_cons, shown_of_late own late] at later
  have held : holderAfter (before ++ .begins r :: between) = between.foldl Moment.holder (some r) := by
    rw [holderAfter, List.foldl_append]
    rfl
  refine ⟨⟨_, start, rfl, ?_⟩, _, later, rfl, rfl, ?_⟩
  · exact (carries_iff (some r) r _).mpr ⟨r, rfl, rfl, rfl, rfl⟩
  · rw [held]
    exact carries_begun_iff others m.record

/-- Two requests that overlap: the first ends under the id of the second, and the second without any. -/
theorem overlapping_requests_mix :
    let a : Request := { id := "a", method := "GET", path := "/a" }
    let b : Request := { id := "b", method := "GET", path := "/b" }
    let done : Result := .answered ⟨200, .null⟩
    let moments := [.begins a, .begins b, .ends a ⟨5⟩ done, .ends b ⟨5⟩ done]
    let shown := fun entry : Entry =>
      (entry.record.message, (entry.fields.get? "request_id").map Value.text)
    (played moments).entries.map shown =
      [("Request started: GET /a", some "a"), ("Request started: GET /b", some "b"),
        ("Request completed: GET /a - Status: 200 - Duration: 0.005s", some "b"),
        ("Request completed: GET /b - Status: 200 - Duration: 0.005s", none)] ∧
    ¬∀ (i : Nat) (m : Moment) (entry : Entry), moments[i]? = some m →
      (played moments).entries[i]? = some entry → Carries entry m.request := by
  intro a b done moments shown
  refine ⟨by decide +kernel, fun law => ?_⟩
  have unmarked := (law 3 (.ends b ⟨5⟩ done) _ rfl rfl).1
  cases unmarked

/-- A request that is noted once before another ends and once after. -/
theorem request_disturbed_once :
    let a : Request := { id := "a", method := "GET", path := "/a" }
    let b : Request := { id := "b", method := "GET", path := "/b" }
    let note := Journal.note .info .endpoints "waited"
    let between := [.notes a note, .ends b ⟨5⟩ (.answered ⟨200, .null⟩)]
    let entries := (played (.begins b :: .begins a :: (between ++ [.notes a note]))).entries
    (Moment.notes a note).request = a ∧ Moment.notes a note ≠ .begins a ∧
    (∀ other ∈ between, other.turns = true → other.request.id ≠ a.id) ∧
    (∃ entry, entries[2]? = some entry ∧ Carries entry a) ∧
    ∃ entry, entries[4]? = some entry ∧ entry.record = note ∧ ¬Carries entry a := by
  intro a b note between entries
  have others : ∀ other ∈ between, other.turns = true → other.request.id ≠ a.id := by
    intro other there
    simp only [between, List.mem_cons, List.not_mem_nil, or_false] at there
    rcases there with rfl | rfl <;> decide
  have law := record_marked_iff_undisturbed [.begins b] between [] a (.notes a note) rfl Moment.noConfusion others
  obtain ⟨-, entry, place, kept, -, marked⟩ := law
  refine ⟨rfl, Moment.noConfusion, others, ⟨_, rfl, rfl, rfl, rfl⟩, entry, place, kept, fun carries => ?_⟩
  have quiet := marked.mp carries (.ends b ⟨5⟩ (.answered ⟨200, .null⟩)) (by simp [between])
  cases quiet

end Automation.Service
