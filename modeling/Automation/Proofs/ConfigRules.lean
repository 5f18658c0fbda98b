import Automation.CommandLine.Arguments
import Automation.Proofs.Documents
import Automation.Proofs.Fields
import Automation.Proofs.Forwarding

/-!
The rules of the configuration. Settings that are read keep the rules, and so do the ready sets; only a
timeout that is not a number passes its rule, since it is neither above zero nor at most zero. What the
command line puts in front of the settings is not checked again, so the result keeps a rule just where the
command line gives a value that does, or none.
-/
namespace Automation

open Document (Check Checked)
open Document.Checked (seq_good_iff fmap_good_iff andThen_good_iff)

/-- A double that is not at most zero is above zero or not a number. -/
theorem Double.not_atMost_zero_iff {x : Double} :
    x.atMost .zero = false ↔ x = .nan ∨ Double.zero.less x = true := by
  cases x with
  | nan => simp [atMost, key?]
  | number negative rank => cases negative <;> simp [atMost, less, key?, zero]

/-- Whether a database address has a known scheme. -/
def isSupported (url : String) : Bool := (DatabaseKind.ofName? (databaseScheme url)).isSome

theorem isSupported_file : isSupported "sqlite:///./flowengine.db" = true := by
  simp +decide [isSupported, databaseScheme, beforeFirst, String.splitOn, String.splitOnAux]

theorem isSupported_memory : isSupported "sqlite:///:memory:" = true := by
  simp +decide [isSupported, databaseScheme, beforeFirst, String.splitOn, String.splitOnAux]

namespace Config

/-- Settings that keep all rules, but for a timeout that is not a number. -/
structure Lawful (c : Config) : Prop where
  port : 1 ≤ c.port ∧ c.port ≤ 65535
  workers : 1 ≤ c.maxConcurrentExecutions
  timeout : c.httpTimeout = .nan ∨ Double.zero.less c.httpTimeout = true
  database : isSupported c.databaseUrl = true

theorem Lawful.timeout_iff {c : Config} (lawful : c.Lawful) :
    Double.zero.less c.httpTimeout = true ↔ c.httpTimeout ≠ .nan := by
  rcases lawful.timeout with is | above
  · rw [is]
    decide
  · refine ⟨fun _ is => ?_, fun _ => above⟩
    rw [is] at above
    cases above

theorem portRule_all (n : Int) : (portRule n).All fun port => 1 ≤ port ∧ port ≤ 65535 := by
  intro port kept
  obtain ⟨holds, rfl⟩ := Document.ruleFor_good_iff.mp kept
  simpa using holds

theorem maxConcurrentRule_all (n : Int) : (maxConcurrentRule n).All (1 ≤ ·) := by
  intro workers kept
  obtain ⟨holds, rfl⟩ := Document.ruleFor_good_iff.mp kept
  simpa using holds

theorem timeoutRule_all (x : Double) :
    (timeoutRule x).All fun timeout => timeout = .nan ∨ Double.zero.less timeout = true := by
  intro timeout kept
  obtain ⟨holds, rfl⟩ := Document.ruleFor_good_iff.mp kept
  exact Double.not_atMost_zero_iff.mp (by simpa using holds)

theorem databaseUrlRule_all (s : String) : (databaseUrlRule s).All (isSupported · = true) := by
  intro url kept
  unfold databaseUrlRule at kept
  split at kept
  · cases kept
  · obtain ⟨holds, rfl⟩ := Document.ruleFor_good_iff.mp kept
    exact holds

/-- The default settings keep the rules. -/
theorem lawful_default : Lawful {} := ⟨by decide, by decide, .inr (by decide +kernel), isSupported_file⟩

/-- So do the ready sets, and their timeout is a number. -/
theorem lawful_preset {name : String} {c : Config} (ready : preset? name = some c) :
    c.Lawful ∧ c.httpTimeout ≠ .nan := by
  unfold preset? at ready
  split at ready
  · cases ready
    exact ⟨⟨by decide, by decide, lawful_default.timeout, isSupported_file⟩, by decide⟩
  · cases ready
    exact ⟨⟨by decide, by decide, lawful_default.timeout, isSupported_file⟩, by decide⟩
  · cases ready
    exact ⟨⟨by decide, by decide, .inr (by decide +kernel), isSupported_memory⟩, by decide⟩
  · cases ready

/-- The timeout as it is read from its field. -/
def timeoutIn (fields : Fields Value) : Checked Double :=
  Document.optional fields "http_timeout" (wholeDouble 30) fun v => (Check.number v).andThen timeoutRule

theorem timeoutIn_congr {fields fields' : Fields Value}
    (same : fields.get? "http_timeout" = fields'.get? "http_timeout") : timeoutIn fields = timeoutIn fields' := by
  rw [timeoutIn, timeoutIn, Document.optional, Document.optional, same]

/-- Settings that are read keep the rules, and the timeout is read by itself. -/
theorem read_all (fields : Fields Value) :
    (read fields).All fun c => c.Lawful ∧ timeoutIn fields = .good c.httpTimeout := by
  -- the settings after the timeout, those from the timeout to the port, and those before the port
  refine .seq .any (.seq .any (.seq .any (.seq .any (.seq .any (.seq .any (.seq .any (.seq .any (.seq .any
    (.seq .any ?_)))))))))
  refine .seq .self (.seq (.optional_rule maxConcurrentRule_all lawful_default.workers) (.seq .any
    (.seq (.optional_rule databaseUrlRule_all lawful_default.database) (.seq .any
      (.seq (.optional_rule portRule_all lawful_default.port) ?_)))))
  refine .seq .any (.seq .any (.seq .any (.fmap .any ?_)))
  intro name _ version _ debug _ host _ port portKept reload _ url urlKept echo _ workers workersKept timeout
    timeoutRead
  intros
  have timeoutKept := Checked.All.optional_rule timeoutRule_all lawful_default.timeout timeout timeoutRead
  exact ⟨⟨portKept, workersKept, timeoutKept, urlKept⟩, timeoutRead⟩

theorem make_eq_ok {fields : Fields Value} {c : Config} (made : make fields = .ok c) :
    read fields = .good c := by
  unfold make at made
  split at made
  · cases made
    assumption
  · cases made

section

variable {env : Environment} {key name other : String} {fields : Fields Value}

/-- A single field gives nothing else. -/
theorem get?_field (different : other ≠ key) (v : Value) : Fields.get? [(key, v)] other = none := by
  rw [Fields.get?_cons, if_neg different, Fields.get?_nil]

theorem get?_textField (different : other ≠ key) : (textField env key name).get? other = none := by
  unfold textField
  cases given? env name with
  | none => rfl
  | some s => exact get?_field different _

theorem get?_switchField (different : other ≠ key) : (switchField env key name).get? other = none := by
  unfold switchField
  cases given? env name with
  | none => rfl
  | some s => exact get?_field different _

theorem get?_listField (different : other ≠ key) : (listField env key name).get? other = none := by
  unfold listField
  split
  · split
    · rfl
    · exact get?_field different _
  · rfl

/-- A field that is converted from its variable, if that is set. -/
theorem eq_of_converted {α : Type} {convert : String → Except Failure α} {value : α → Value}
    (given : (match given? env name with
      | some s => (convert s).map fun a => [(key, value a)]
      | none => .ok []) = .ok fields) :
    (given? env name = none ∧ fields = []) ∨
      ∃ s a, given? env name = some s ∧ convert s = .ok a ∧ fields = [(key, value a)] := by
  cases set : given? env name with
  | none =>
    rw [set] at given
    cases given
    exact .inl ⟨rfl, rfl⟩
  | some s =>
    simp only [set] at given
    cases read : convert s with
    | error f =>
      rw [read] at given
      cases given
    | ok a =>
      rw [read] at given
      cases given
      exact .inr ⟨s, a, rfl, read, rfl⟩

theorem get?_integerField (given : integerField env key name = .ok fields) (different : other ≠ key) :
    fields.get? other = none := by
  rcases eq_of_converted given with ⟨-, rfl⟩ | ⟨s, n, -, -, rfl⟩
  · rfl
  · exact get?_field different _

theorem get?_numberField (given : numberField env key name = .ok fields) (different : other ≠ key) :
    fields.get? other = none := by
  rcases eq_of_converted given with ⟨-, rfl⟩ | ⟨s, x, -, -, rfl⟩
  · rfl
  · exact get?_field different _

theorem get?_levelField (given : levelField env = .ok fields) (different : other ≠ "log_level") :
    fields.get? other = none := by
  unfold levelField at given
  split at given
  · simp only at given
    split at given
    · cases given
      exact get?_field different _
    · cases given
  · cases given
    rfl

/-- The timeout comes from its variable, or it is the default. -/
theorem timeoutIn_numberField (given : numberField env "http_timeout" "HTTP_TIMEOUT" = .ok fields)
    {x : Double} (accepted : timeoutIn fields = .good x) :
    (given? env "HTTP_TIMEOUT" = none ∧ x = wholeDouble 30) ∨
      ∃ s, given? env "HTTP_TIMEOUT" = some s ∧ Number.readDouble? s = some x := by
  rcases eq_of_converted given with ⟨unset, rfl⟩ | ⟨s, y, set, read, rfl⟩
  · rcases Document.optional_good_iff.mp accepted with ⟨v, found, -⟩ | ⟨-, standard⟩
    · cases found
    · exact .inl ⟨unset, standard⟩
  · rcases Document.optional_good_iff.mp accepted with ⟨v, found, passed⟩ | ⟨missing, -⟩
    · obtain rfl : Value.float y = v := Option.some.inj found
      obtain ⟨-, rfl⟩ := Document.ruleFor_good_iff.mp passed
      refine .inr ⟨s, set, ?_⟩
      unfold numberSetting at read
      split at read
      · cases read
        assumption
      · cases read
    · cases missing

end

/-- The configuration of an environment keeps the rules, and its timeout is the number that the variable
denotes, where that is set. -/
theorem of_environment {env : Environment} {c : Config} (loaded : ofEnvironment env = .ok c) :
    c.Lawful ∧ ((given? env "HTTP_TIMEOUT" = none ∧ c.httpTimeout = wholeDouble 30) ∨
      ∃ s, given? env "HTTP_TIMEOUT" = some s ∧ Number.readDouble? s = some c.httpTimeout) := by
  obtain ⟨port, givenPort, loaded⟩ := ok_of_bind_ok loaded
  obtain ⟨workers, givenWorkers, loaded⟩ := ok_of_bind_ok loaded
  obtain ⟨timeout, givenTimeout, loaded⟩ := ok_of_bind_ok loaded
  obtain ⟨level, givenLevel, loaded⟩ := ok_of_bind_ok loaded
  obtain ⟨size, givenSize, loaded⟩ := ok_of_bind_ok loaded
  obtain ⟨backups, givenBackups, loaded⟩ := ok_of_bind_ok loaded
  obtain ⟨threshold, givenThreshold, loaded⟩ := ok_of_bind_ok loaded
  obtain ⟨lawful, timeoutRead⟩ := read_all _ c (make_eq_ok loaded)
  refine ⟨lawful, timeoutIn_numberField givenTimeout ?_⟩
  rw [← timeoutRead]
  apply timeoutIn_congr
  have port' : port.get? "http_timeout" = none := get?_integerField givenPort (by decide)
  have workers' : workers.get? "http_timeout" = none := get?_integerField givenWorkers (by decide)
  have level' : level.get? "http_timeout" = none := get?_levelField givenLevel (by decide)
  have size' : size.get? "http_timeout" = none := get?_integerField givenSize (by decide)
  have backups' : backups.get? "http_timeout" = none := get?_integerField givenBackups (by decide)
  have threshold' : threshold.get? "http_timeout" = none := get?_numberField givenThreshold (by decide)
  simp (disch := decide) only [Fields.get?_append, get?_textField, get?_switchField, get?_listField, port',
    workers', level', size', backups', threshold', Option.none_or, Option.or_none]

/-- Where the scheme is known, the kind of the database and what is derived from it are found. -/
theorem databaseKind_eq {c : Config} :
    (∃ kind, c.databaseKind = .ok kind) ↔ isSupported c.databaseUrl = true := by
  unfold databaseKind databaseKind? isSupported
  cases DatabaseKind.ofName? (databaseScheme c.databaseUrl) <;> simp

theorem connectArgs_of_kind {c : Config} {kind : DatabaseKind} (found : c.databaseKind = .ok kind) :
    c.isSqlite = .ok (kind == .sqlite) ∧
      c.connectArgs = .ok (if kind == .sqlite then [("check_same_thread", .bool false)] else []) := by
  unfold connectArgs isSqlite
  rw [found]
  exact ⟨rfl, rfl⟩

end Config

namespace CommandLine.Arguments

/-- What holds of a default holds after a choice just where it holds of what is chosen, if anything is. -/
theorem getD_iff {α : Type} {P : α → Prop} {chosen : Option α} {default : α} (standard : P default) :
    P (chosen.getD default) ↔ ∀ x, chosen = some x → P x := by
  cases chosen <;> simp [standard]

theorem nonzero_eq_some_iff {n : Option Int} {m : Int} : nonzero n = some m ↔ n = some m ∧ m ≠ 0 := by
  simp [nonzero, Option.filter_eq_some_iff]

theorem nonempty_eq_some_iff {text : Option String} {s : String} :
    nonempty text = some s ↔ text = some s ∧ s ≠ "" := by
  simp [nonempty, Option.filter_eq_some_iff]

/-- The settings that the command line starts from keep the rules. Their timeout is not a number just where
no ready set is asked for and the variable denotes none. -/
theorem base_lawful {a : Arguments} {env : Environment} {files : FileTree} {c : Config}
    (loaded : a.base env files = .ok c) : c.Lawful ∧
      (c.httpTimeout = .nan ↔ a.preset.bind Config.preset? = none ∧ ∃ s,
        Config.given? (Config.withEnvFile a.configFile files env) "HTTP_TIMEOUT" = some s ∧
          Number.readDouble? s = some .nan) := by
  unfold base at loaded
  split at loaded
  · next ready found =>
    cases loaded
    obtain ⟨name, -, preset⟩ := Option.bind_eq_some_iff.mp found
    obtain ⟨lawful, number⟩ := Config.lawful_preset preset
    refine ⟨lawful, fun is => absurd is number, fun ⟨unready, _⟩ => ?_⟩
    rw [found] at unready
    cases unready
  · next unready =>
    obtain ⟨lawful, ⟨unset, standard⟩ | ⟨s, set, read⟩⟩ := Config.of_environment loaded
    · refine ⟨lawful, fun is => ?_, fun ⟨_, s, set, _⟩ => ?_⟩
      · rw [standard] at is
        cases is
      · rw [unset] at set
        cases set
    · refine ⟨lawful, fun is => ⟨unready, s, set, is ▸ read⟩, fun ⟨_, s', set', read'⟩ => ?_⟩
      obtain rfl : s = s' := Option.some.inj (set.symm.trans set')
      exact Option.some.inj (read.symm.trans read')

/-- The configuration that a command line and an environment give keeps a rule just where the command line
does not break it: a port, a number of executions or a database address that is given, and neither zero nor
empty, is in force as it is. The timeout is above zero unless it comes from a variable that denotes no
number. What is derived from the database is found wherever its scheme is known. -/
theorem configuration_rules_iff {a : Arguments} {env : Environment} {files : FileTree} {c : Config}
    (loaded : a.configuration env files = .ok c) :
    ((1 ≤ c.port ∧ c.port ≤ 65535) ↔ ∀ port, a.port = some port ∧ port ≠ 0 → 1 ≤ port ∧ port ≤ 65535) ∧
    (1 ≤ c.maxConcurrentExecutions ↔ ∀ n, a.maxConcurrentExecutions = some n ∧ n ≠ 0 → 1 ≤ n) ∧
    (Double.zero.less c.httpTimeout = true ↔ ¬(a.preset.bind Config.preset? = none ∧ ∃ s,
      Config.given? (Config.withEnvFile a.configFile files env) "HTTP_TIMEOUT" = some s ∧
        Number.readDouble? s = some .nan)) ∧
    ((∃ kind, c.databaseKind = .ok kind) ↔
      ∀ url, a.databaseUrl = some url ∧ url ≠ "" → isSupported url = true) ∧
    ∀ kind, c.databaseKind = .ok kind → c.isSqlite = .ok (kind == .sqlite) ∧
      c.connectArgs = .ok (if kind == .sqlite then [("check_same_thread", .bool false)] else []) := by
  unfold configuration at loaded
  cases begins : a.base env files with
  | error f =>
    rw [begins] at loaded
    cases loaded
  | ok start =>
    rw [begins] at loaded
    obtain rfl : a.override start = c := Except.ok.inj loaded
    obtain ⟨lawful, timeout⟩ := base_lawful begins
    refine ⟨?_, ?_, ?_, ?_, fun kind found => Config.connectArgs_of_kind found⟩
    · simp only [← nonzero_eq_some_iff]
      exact getD_iff (P := fun port => 1 ≤ port ∧ port ≤ 65535) lawful.port
    · simp only [← nonzero_eq_some_iff]
      exact getD_iff (P := (1 ≤ ·)) lawful.workers
    · rw [← timeout]
      exact lawful.timeout_iff
    · simp only [← nonempty_eq_some_iff]
      exact Config.databaseKind_eq.trans (getD_iff (P := (isSupported · = true)) lawful.database)

/-- One port on the command line, and a timeout in the environment. -/
theorem configuration_rules_port :
    let a : Arguments := { port := some 8080 }
    let env : Environment := [("FLOW_ENGINE_HTTP_TIMEOUT", "2.5")]
    ∃ c, a.configuration env { home := [] } = .ok c ∧ (1 ≤ c.port ∧ c.port ≤ 65535) ∧
      1 ≤ c.maxConcurrentExecutions ∧ Double.zero.less c.httpTimeout = true ∧
      ∃ kind, c.databaseKind = .ok kind := by
  intro a env
  have loads : (a.configuration env { home := [] }).toOption.isSome = true := by decide +kernel
  cases loaded : a.configuration env { home := [] } with
  | error f =>
    rw [loaded] at loads
    cases loads
  | ok c =>
    obtain ⟨port, workers, timeout, database, -⟩ := configuration_rules_iff loaded
    have number : Number.readDouble? "2.5" ≠ some .nan := by decide +kernel
    refine ⟨c, rfl, port.mpr ?_, workers.mpr ?_, timeout.mpr ?_, database.mpr ?_⟩
    · rintro port ⟨given, -⟩
      cases given
      decide
    · rintro n ⟨given, -⟩
      cases given
    · rintro ⟨-, s, set, read⟩
      cases set
      exact number read
    · rintro url ⟨given, -⟩
      cases given

/-- Nothing looks at what the command line puts in front of the settings, and a timeout that is not a number
passes. -/
theorem unchecked_settings_loaded :
    (∃ a c, read ["--port", "99999", "config", "show"] = .ok a ∧
      a.configuration [] { home := [] } = .ok c ∧ c.port = 99999) ∧
    (∃ a c, read ["--database-url", "redis://cache", "config", "show"] = .ok a ∧
      a.configuration [] { home := [] } = .ok c ∧ ¬∃ kind, c.databaseKind = .ok kind) ∧
    ∃ a c, read ["config", "show"] = .ok a ∧
      a.configuration [("FLOW_ENGINE_HTTP_TIMEOUT", "nan")] { home := [] } = .ok c ∧
        c.httpTimeout = .nan := by
  have unknown : isSupported "redis://cache" = false := by
    simp +decide [isSupported, databaseScheme, beforeFirst, String.splitOn, String.splitOnAux]
  have kept : ∃ a c, read ["--database-url", "redis://cache", "config", "show"] = .ok a ∧
      a.configuration [] { home := [] } = .ok c ∧ c.databaseUrl = "redis://cache" := ⟨_, _, rfl, rfl, rfl⟩
  obtain ⟨a, c, reads, loads, url⟩ := kept
  refine ⟨⟨_, _, rfl, rfl, rfl⟩, ⟨a, c, reads, loads, ?_⟩, _, _, rfl, rfl, rfl⟩
  rw [Config.databaseKind_eq, url, unknown]
  exact Bool.false_ne_true

end CommandLine.Arguments
end Automation
