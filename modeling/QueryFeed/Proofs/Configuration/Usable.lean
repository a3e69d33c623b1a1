import QueryFeed.Configuration.Opening
import QueryFeed.Proofs.Poller.Identities
import QueryFeed.Proofs.Source.Desk
import QueryFeed.Run.Basic

/-!
**Only usable configurations connect.**

The limits, the query and the locator are checked before anything else is done.  What comes after the
check relies on it: the settings of the connection, the limits of the run and the interval of the
poller are those of the configuration, and so are the headers of all messages.

Main definitions:

* `Configuration.Usable`, `Configuration.Faulty` — what a configuration needs, and the first thing
  that it lacks;
* `Connect.noted` — the connections of a server, with the settings of every call written down;
* `Source.asked` — a source after some requests;
* `Configuration.Accepted` — what a configuration that was accepted leads to.

Main results:

* `Configuration.check_eq_ok_iff` — **the check accepts what is usable**;
* `Configuration.openSource_noted` — a usable configuration connects once, and any other one never;
* `Configuration.only_usable_connect` — **only usable configurations connect, and they lead to
  well-formed runs**.
-/

set_option autoImplicit false

namespace QueryFeed

variable {φ κ τ : Type}

/-! ### What a configuration needs -/

theorem Text.isBlankText_eq_true_iff {text : String} :
    isBlankText text = true ↔ ∀ c ∈ text.toList, isBlank c = true :=
  List.all_eq_true

theorem Text.isBlankText_eq_false_iff {text : String} :
    isBlankText text = false ↔ ∃ c ∈ text.toList, isBlank c = false := by
  rw [isBlankText, List.all_eq_false]
  simp only [Bool.not_eq_true]

namespace Configuration

/-- All limits are at least one. -/
structure WithinLimits (config : Configuration) : Prop where
  interval : 1 ≤ config.pollIntervalMs
  maxPolls : ∀ limit ∈ config.maxPolls, 1 ≤ limit
  maxMessages : ∀ limit ∈ config.maxMessages, 1 ≤ limit

/-- What a configuration needs: limits of at least one, and a query and a locator with some character
that is not blank. -/
structure Usable (config : Configuration) : Prop extends WithinLimits config where
  query : ∃ c ∈ config.query.toList, Text.isBlank c = false
  url : ∃ url, config.connectionUrl = some url ∧ ∃ c ∈ url.exposed.toList, Text.isBlank c = false

/-- The first thing that a configuration lacks: limits go before the query, and the query before the
locator. -/
inductive Faulty (config : Configuration) : ConfigurationFault → Prop where
  | outOfRange {fields : List String} (limits : ¬ config.WithinLimits)
      (names : ∀ name, name ∈ fields ↔ (name = "max_messages" ∧ config.maxMessages = some 0) ∨
        (name = "max_polls" ∧ config.maxPolls = some 0) ∨
        (name = "poll_interval_ms" ∧ config.pollIntervalMs = 0)) :
      Faulty config (.outOfRange fields)
  | emptyQuery (limits : config.WithinLimits)
      (query : ∀ c ∈ config.query.toList, Text.isBlank c = true) : Faulty config .emptyQuery
  | missingUrl (limits : config.WithinLimits)
      (query : ∃ c ∈ config.query.toList, Text.isBlank c = false)
      (url : ∀ url, config.connectionUrl = some url →
        ∀ c ∈ url.exposed.toList, Text.isBlank c = true) : Faulty config .missingUrl

theorem Faulty.not_usable {config : Configuration} {fault : ConfigurationFault}
    (h : config.Faulty fault) : ¬ config.Usable := by
  intro husable
  cases h with
  | outOfRange limits names => exact limits husable.toWithinLimits
  | emptyQuery limits query =>
      obtain ⟨c, hmem, hblank⟩ := husable.query
      rw [query c hmem] at hblank
      cases hblank
  | missingUrl limits query url =>
      obtain ⟨found, hfound, c, hmem, hblank⟩ := husable.url
      rw [url found hfound c hmem] at hblank
      cases hblank

/-! ### The check -/

/-- The limits that are reported are those that are zero. -/
theorem mem_fieldsOutOfRange {config : Configuration} {name : String} :
    name ∈ config.fieldsOutOfRange ↔ (name = "max_messages" ∧ config.maxMessages = some 0) ∨
      (name = "max_polls" ∧ config.maxPolls = some 0) ∨
      (name = "poll_interval_ms" ∧ config.pollIntervalMs = 0) := by
  have hmem : ∀ (zero : Prop) [Decidable zero] (field : String),
      name ∈ (if zero then [field] else []) ↔ name = field ∧ zero := by
    intro zero _ field
    split <;> simp [*]
  simp only [fieldsOutOfRange, List.mem_append, hmem, or_assoc]

theorem fieldsOutOfRange_eq_nil_iff {config : Configuration} :
    config.fieldsOutOfRange = [] ↔ config.WithinLimits := by
  have hlimit : ∀ limit? : Option Nat, limit? ≠ some 0 ↔ ∀ limit ∈ limit?, 1 ≤ limit := by
    intro limit?
    cases limit? with
    | none => simp
    | some limit => simp [Nat.one_le_iff_ne_zero]
  simp only [List.eq_nil_iff_forall_not_mem, mem_fieldsOutOfRange, not_or, not_and]
  constructor
  · intro h
    exact ⟨Nat.one_le_iff_ne_zero.2 ((h _).2.2 rfl), (hlimit _).1 ((h _).2.1 rfl),
      (hlimit _).1 ((h _).1 rfl)⟩
  · rintro ⟨hinterval, hpolls, hmessages⟩ name
    exact ⟨fun _ => (hlimit _).2 hmessages, fun _ => (hlimit _).2 hpolls,
      fun _ => Nat.one_le_iff_ne_zero.1 hinterval⟩

/-- A configuration is usable, or the check finds the first thing that it lacks. -/
theorem check_cases (config : Configuration) :
    (config.check = .ok () ∧ config.Usable) ∨
      ∃ fault, config.check = .error (.configuration fault) ∧ config.Faulty fault := by
  unfold check
  by_cases hfields : config.fieldsOutOfRange = []
  · have hlimits := fieldsOutOfRange_eq_nil_iff.1 hfields
    rw [if_neg (by rw [hfields]; decide)]
    cases hquery : Text.isBlankText config.query with
    | true =>
        exact Or.inr ⟨_, rfl, .emptyQuery hlimits (Text.isBlankText_eq_true_iff.1 hquery)⟩
    | false =>
        have hlegible := Text.isBlankText_eq_false_iff.1 hquery
        rw [if_neg Bool.false_ne_true]
        cases hurl : config.connectionUrl with
        | none => exact Or.inr ⟨_, rfl, .missingUrl hlimits hlegible (by simp [hurl])⟩
        | some url =>
            cases hblank : Text.isBlankText url.exposed with
            | true =>
                refine Or.inr ⟨_, by simp only [hblank, if_true], .missingUrl hlimits hlegible ?_⟩
                intro other hother
                obtain rfl : url = other := Option.some.inj (hurl.symm.trans hother)
                exact Text.isBlankText_eq_true_iff.1 hblank
            | false =>
                refine Or.inl ⟨by simp [hblank], { hlimits with query := hlegible, url := ?_ }⟩
                exact ⟨url, hurl, Text.isBlankText_eq_false_iff.1 hblank⟩
  · refine Or.inr ⟨_, if_pos ?_, .outOfRange (mt fieldsOutOfRange_eq_nil_iff.2 hfields) fun _ =>
      mem_fieldsOutOfRange⟩
    simpa using hfields

/-- **The check accepts what is usable**, and nothing else. -/
theorem check_eq_ok_iff {config : Configuration} : config.check = .ok () ↔ config.Usable := by
  rcases config.check_cases with ⟨hok, husable⟩ | ⟨fault, herror, hfaulty⟩
  · exact ⟨fun _ => husable, fun _ => hok⟩
  · exact ⟨fun hok => (by rw [herror] at hok; cases hok), fun husable =>
      absurd husable hfaulty.not_usable⟩

/-! ### Connecting -/

/-- The settings of a usable configuration: its locator as it stands, its timeouts, and its application
name or the usual one. -/
theorem Usable.connectionSettings {config : Configuration} (h : config.Usable) :
    ∃ settings, config.connectionSettings = .ok settings ∧
      config.connectionUrl = some ⟨settings.url⟩ ∧
      settings.connectTimeoutMs = config.connectTimeoutMs ∧
      settings.queryTimeoutMs = config.queryTimeoutMs ∧
      settings.applicationName = some (config.applicationName.getD "rowpoll") := by
  obtain ⟨url, hurl, -⟩ := h.url
  unfold Configuration.connectionSettings
  rw [hurl]
  refine ⟨_, rfl, rfl, rfl, rfl, ?_⟩
  cases config.applicationName <;> rfl

end Configuration

/-- The connections of a server, with the settings of every call written down. -/
def Connect.noted (connect : Connect φ κ) : Connect (φ × List Database.Settings) κ :=
  fun server settings =>
    ((connect server.1 settings).1, (connect server.1 settings).2, server.2 ++ [settings])

namespace Configuration

/-- A usable configuration connects once. -/
theorem Usable.openSource_noted {config : Configuration} (h : config.Usable)
    {settings : Database.Settings} (found : config.connectionSettings = .ok settings)
    (mapper : RowMapper τ) (connect : Connect φ κ) (server : φ) :
    config.openSource mapper connect.noted (server, []) =
      (match (connect server settings).1 with
        | .ok connection => .ok (config.sourcePlan mapper, connection)
        | .error e => .error (.database e),
      (connect server settings).2, [settings]) := by
  have hsettings : config.usableSettings = .ok settings := by
    rw [usableSettings, check_eq_ok_iff.2 h]
    exact found
  simp only [openSource, hsettings, Connect.noted, List.nil_append]
  cases (connect server settings).1 <;> rfl

/-- A configuration with a fault never connects. -/
theorem openSource_of_fault {config : Configuration} {e : FeedError} (h : config.check = .error e)
    (mapper : RowMapper τ) (connect : Connect φ κ) (server : φ) :
    config.openSource mapper connect server = (.error e, server) := by
  have hsettings : config.usableSettings = .error e := by
    rw [usableSettings, h]
    rfl
  simp only [openSource, hsettings]

/-! ### Runs -/

/-- The limits of a run are those of a usable configuration: none of them is zero, and the poller uses
the interval as it stands. -/
theorem Usable.runOptions {config : Configuration} (h : config.Usable) (once : Bool) :
    (RunOptions.ofConfiguration config once).maxPolls ≠ some 0 ∧
      (RunOptions.ofConfiguration config once).maxMessages ≠ some 0 ∧
      effectiveInterval (ofMilliseconds (RunOptions.ofConfiguration config once).intervalMs) =
        (ofMilliseconds config.pollIntervalMs, []) := by
  have hlimit : ∀ limit? : Option Nat, (∀ limit ∈ limit?, 1 ≤ limit) → limit? ≠ some 0 := by
    rintro limit? hlimit rfl
    exact absurd (hlimit 0 rfl) (by decide)
  have hinterval : shortestInterval ≤ ofMilliseconds config.pollIntervalMs :=
    Nat.mul_le_mul_right _ h.interval
  refine ⟨?_, hlimit _ h.maxMessages, effectiveInterval_of_le hinterval⟩
  change (if once then some 1 else config.maxPolls) ≠ some 0
  cases once with
  | true =>
      rw [if_pos rfl]
      decide
  | false => exact hlimit _ h.maxPolls

/-- A run of a usable configuration polls at its interval, and nobody is told of a shorter one. -/
theorem Usable.run_start {σ ω : Type} {config : Configuration} (h : config.Usable) (once : Bool)
    (source : σ) (firstId : Nat) (out : ω) :
    (Run.start source (.ofConfiguration config once) firstId out : Run σ τ ω).polling.interval =
        ofMilliseconds config.pollIntervalMs ∧
      (Run.start source (.ofConfiguration config once) firstId out : Run σ τ ω).poller.notices =
        [] := by
  obtain ⟨-, -, hinterval⟩ := h.runOptions once
  rw [Run.start, hinterval]
  exact ⟨rfl, rfl⟩

end Configuration

/-! ### Messages -/

namespace Source

/-- The source after some requests. -/
def asked (source : Source τ) (requests : List Request) : Source τ :=
  requests.foldl (fun source request => (source.serve request).source) source

/-- Whatever it is asked, a source keeps its plan. -/
theorem plan_serve (source : Source τ) (request : Request) :
    (source.serve request).source.plan = source.plan := by
  cases request with
  | poll =>
      simp only [serve, poll, Polled.map]
      split <;> rfl
  | receive stamp => exact (MessageSource.receive_source source stamp).1
  | setVariable | removeVariable | lookup | stats => rfl

theorem plan_asked (source : Source τ) (requests : List Request) :
    (source.asked requests).plan = source.plan := by
  induction requests generalizing source with
  | nil => rfl
  | cons request rest ih => exact (ih _).trans (source.plan_serve request)

end Source

namespace Configuration

/-- What a configuration that was accepted leads to. -/
structure Accepted (config : Configuration) (mapper : RowMapper τ) (connect : Connect φ κ)
    (server : φ) : Prop where
  /-- One connection is asked for, with the settings of the configuration, and a refusal comes back as
  it is. -/
  connects : ∃ settings, config.connectionSettings = .ok settings ∧
    config.connectionUrl = some ⟨settings.url⟩ ∧
    settings.connectTimeoutMs = config.connectTimeoutMs ∧
    settings.queryTimeoutMs = config.queryTimeoutMs ∧
    settings.applicationName = some (config.applicationName.getD "rowpoll") ∧
    config.openSource mapper connect.noted (server, []) =
      (match (connect server settings).1 with
        | .ok connection => .ok (config.sourcePlan mapper, connection)
        | .error e => .error (.database e),
      (connect server settings).2, [settings])
  /-- No limit of a run is zero, and the poller uses the interval as it stands. -/
  limits : ∀ once : Bool, (RunOptions.ofConfiguration config once).maxPolls ≠ some 0 ∧
    (RunOptions.ofConfiguration config once).maxMessages ≠ some 0 ∧
    effectiveInterval (ofMilliseconds (RunOptions.ofConfiguration config once).intervalMs) =
      (ofMilliseconds config.pollIntervalMs, [])
  /-- So a run polls at this interval, and nobody is told of a shorter one. -/
  interval : ∀ {σ ω : Type} (once : Bool) (source : σ) (firstId : Nat) (out : ω),
    (Run.start source (.ofConfiguration config once) firstId out : Run σ τ ω).polling.interval =
        ofMilliseconds config.pollIntervalMs ∧
      (Run.start source (.ofConfiguration config once) firstId out : Run σ τ ω).poller.notices = []
  /-- Every message of the source has the headers of the configuration, whatever was asked before. -/
  headers : ∀ (registry : Registry) (requests : List Request) (stamp : Stamp)
    (message : Message (Payload τ)),
    ((((config.sourcePlan mapper).setUp registry).asked requests).receive stamp).result =
        .ok message →
      message.headers = .fresh stamp config.headers
  /-- So has every message that a poller gets of it. -/
  polled : ∀ (connection : Connection κ) (registry : Registry) (database : κ)
    (poller : Poller (Source τ × κ) τ) (interval : Nat) (maxPolls : Option Nat) events entries
    polling, poller.source = ((config.sourcePlan mapper).setUp registry, database) →
    Polling.Documented (.ofSource connection) (fun _ => True) (.start poller interval maxPolls)
      events entries polling →
    ∀ entry ∈ entries, ∀ message, entry.received = .ok message →
      message.headers.values = config.headers

theorem Usable.accepted {config : Configuration} (h : config.Usable) (mapper : RowMapper τ)
    (connect : Connect φ κ) (server : φ) : config.Accepted mapper connect server where
  connects := by
    obtain ⟨settings, hfound, hurl, hconnect, hquery, hname⟩ := h.connectionSettings
    exact ⟨settings, hfound, hurl, hconnect, hquery, hname,
      h.openSource_noted hfound mapper connect server⟩
  limits := h.runOptions
  interval := h.run_start
  headers := by
    intro registry requests stamp message hmessage
    have hheaders := (MessageSource.receive_source _ stamp).2 message hmessage
    rw [Source.plan_asked] at hheaders
    exact hheaders
  polled := by
    intro connection registry database poller interval maxPolls events entries polling hsource h
    have hfresh := h.fresh rfl (MessageSource.stamps_ofSource connection (config.sourcePlan mapper))
      (congrArg (·.1.plan) hsource)
    exact hfresh.texts

/-- **Only usable configurations connect**, and they lead to well-formed runs.  Any other one is refused
for the first thing that it lacks. -/
theorem only_usable_connect (config : Configuration) (mapper : RowMapper τ)
    (connect : Connect φ κ) (server : φ) :
    (config.check = .ok () ↔ config.Usable) ∧
      (config.Usable → config.Accepted mapper connect server) ∧
      (¬ config.Usable → ∃ fault, config.Faulty fault ∧
        config.check = .error (.configuration fault) ∧
        config.openSource mapper connect.noted (server, []) =
          (.error (.configuration fault), (server, []))) := by
  refine ⟨check_eq_ok_iff, fun h => h.accepted mapper connect server, fun h => ?_⟩
  rcases config.check_cases with ⟨-, husable⟩ | ⟨fault, herror, hfaulty⟩
  · exact absurd husable h
  · exact ⟨fault, hfaulty, herror, openSource_of_fault herror mapper connect.noted (server, [])⟩

/-- A configuration with a query and a locator. -/
def shop : Configuration :=
  { standard with
    connectionUrl := some ⟨"postgres://db/shop"⟩
    query := "SELECT 1"
    headers := [("source", "shop")] }

/-- A server that refuses to connect is asked once by the configuration of a shop, and never by one in
which everything is left out. -/
theorem only_usable_connect_refused :
    shop.openSource RowMapper.json
        (Connect.noted (κ := Unit) fun calls _ => (.error (.timeout "late"), calls + 1)) (0, []) =
      (.error (.database (.timeout "late")), 1, [⟨"postgres://db/shop", 10000, 0, some "rowpoll"⟩]) ∧
    ∃ fault, standard.Faulty fault ∧ standard.openSource RowMapper.json
        (Connect.noted (κ := Unit) fun calls _ => (.error (.timeout "late"), calls + 1)) (0, []) =
      (.error (.configuration fault), 0, []) := by
  obtain ⟨hcheck, haccepted, -⟩ := only_usable_connect (κ := Unit) shop RowMapper.json
    (fun calls _ => (.error (.timeout "late"), calls + 1)) 0
  obtain ⟨hstandard, -, hrefused⟩ := only_usable_connect (κ := Unit) standard RowMapper.json
    (fun calls _ => (.error (.timeout "late"), calls + 1)) 0
  obtain ⟨settings, hfound, -, -, -, -, hopen⟩ := (haccepted (hcheck.1 rfl)).connects
  cases hfound
  obtain ⟨fault, hfaulty, -, hnever⟩ := hrefused fun husable => by
    cases hstandard.2 husable
  exact ⟨hopen, fault, hfaulty, hnever⟩

end Configuration

end QueryFeed
