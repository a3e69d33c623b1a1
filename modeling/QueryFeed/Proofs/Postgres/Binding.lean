import QueryFeed.Proofs.Postgres.Nulls

/-!
**Where a null can be bound.**

A parameter is sent as the bytes of its value in the type that the server declares, and parameters are sent
only if each of them suits its type.  Null suits four-byte integers and no other type.  So parameters that
are accepted stay accepted with null in some places just if each of these places is declared a four-byte
integer.  Then null is sent there, the other parameters are sent as before, and the answer is the same.
Otherwise nothing is bound, and the error names the first place that does not take the null.

Main definitions:

* `replaceAt` — the items of a list with another one in chosen places;
* `Binds` — parameters suit the declared types, and what is sent for them;
* `Session.Sends` — a query of a session sends these parameters.

Main results:

* `bindParams_eq_ok_iff`, `bindParams_eq_unsuitable_iff` — when parameters are sent, and which one is at fault;
* `Binds.replaceAt_iff` — **null suits four-byte integers only**;
* `Session.query_cases` — a query binds its parameters at most once, and only then looks at them;
* `Session.nulls_sent_iff` — null in some places of the parameters of a session;
* `Session.accepted_place_refuses_null` — a place that takes a value may refuse null.
-/

set_option autoImplicit false

namespace QueryFeed.Postgres

/-! ### Items in chosen places -/

section

variable {α : Type}

/-- The items, with another one in the chosen places. -/
def replaceAt (chosen : Nat → Bool) (other : α) (items : List α) : List α :=
  items.mapIdx fun place item => if chosen place then other else item

@[simp] theorem length_replaceAt (chosen : Nat → Bool) (other : α) (items : List α) :
    (replaceAt chosen other items).length = items.length :=
  List.length_mapIdx

@[simp] theorem getElem?_replaceAt (chosen : Nat → Bool) (other : α) (items : List α) (place : Nat) :
    (replaceAt chosen other items)[place]? =
      items[place]?.map fun item => if chosen place then other else item :=
  List.getElem?_mapIdx

end

/-! ### Parameters and their types -/

theorem WireType.encode?_null (type : WireType) :
    type.encode? .null = if type = int4 then some none else none := rfl

/-- Parameters suit the types in number and one by one, and this is sent for them. -/
structure Binds (types : List WireType) (params : List Value) (sent : List (Option (List UInt8))) :
    Prop where
  count : types.length = params.length
  length_eq : sent.length = params.length
  encoded : ∀ (place : Nat) (type : WireType) (value : Value), types[place]? = some type →
    params[place]? = some value → ∃ bytes, type.encode? value = some bytes ∧ sent[place]? = some bytes

/-- Parameters are encoded just if each of them suits its type. -/
theorem encodeFrom_eq_ok_iff {index : Nat} {pairs : List (WireType × Value)}
    {sent : List (Option (List UInt8))} :
    encodeFrom index pairs = .ok sent ↔
      sent.length = pairs.length ∧ ∀ (place : Nat) (pair : WireType × Value),
        pairs[place]? = some pair →
          ∃ bytes, pair.1.encode? pair.2 = some bytes ∧ sent[place]? = some bytes := by
  induction pairs generalizing index sent with
  | nil => simp [encodeFrom, eq_comm]
  | cons pair rest ih =>
      obtain ⟨type, value⟩ := pair
      rw [encodeFrom]
      cases hfirst : type.encode? value with
      | none =>
          refine iff_of_false (by simp) fun ⟨_, heach⟩ => ?_
          obtain ⟨bytes, hbytes, -⟩ := heach 0 (type, value) rfl
          rw [hfirst] at hbytes
          cases hbytes
      | some bytes =>
          constructor
          · intro h
            cases hrest : encodeFrom (index + 1) rest with
            | error fault =>
                rw [hrest] at h
                cases h
            | ok others =>
                rw [hrest] at h
                cases h
                obtain ⟨hlength, heach⟩ := ih.1 hrest
                refine ⟨by simp [hlength], fun place pair hpair => ?_⟩
                cases place with
                | zero =>
                    cases hpair
                    exact ⟨bytes, hfirst, rfl⟩
                | succ place => exact heach place pair hpair
          · rintro ⟨hlength, heach⟩
            cases sent with
            | nil => cases hlength
            | cons first others =>
                obtain ⟨found, hfound, hplace⟩ := heach 0 (type, value) rfl
                cases hfirst.symm.trans hfound
                cases hplace
                have hothers : encodeFrom (index + 1) rest = .ok others :=
                  ih.2 ⟨Nat.succ.inj hlength, fun place pair hpair => heach (place + 1) pair hpair⟩
                simp only [hothers]
                rfl

/-- The parameter at fault is the first one that does not suit its type. -/
theorem encodeFrom_eq_error_iff {index : Nat} {pairs : List (WireType × Value)} {fault : BindFault} :
    encodeFrom index pairs = .error fault ↔
      ∃ (place : Nat) (pair : WireType × Value), pairs[place]? = some pair ∧
        pair.1.encode? pair.2 = none ∧ fault = .unsuitable (index + place) ∧
        ∀ earlier < place, ∀ pair, pairs[earlier]? = some pair → pair.1.encode? pair.2 ≠ none := by
  induction pairs generalizing index with
  | nil => simp [encodeFrom]
  | cons pair rest ih =>
      obtain ⟨type, value⟩ := pair
      rw [encodeFrom]
      cases hfirst : type.encode? value with
      | none =>
          constructor
          · intro h
            cases h
            exact ⟨0, (type, value), rfl, hfirst, rfl, fun _ hless => absurd hless (Nat.not_lt_zero _)⟩
          · rintro ⟨place, pair, -, -, rfl, hbefore⟩
            cases place with
            | zero => rfl
            | succ place => exact absurd hfirst (hbefore 0 (Nat.succ_pos place) (type, value) rfl)
      | some bytes =>
          have hmap : ((encodeFrom (index + 1) rest).map (bytes :: ·) = .error fault) ↔
              encodeFrom (index + 1) rest = .error fault := by
            cases encodeFrom (index + 1) rest <;> simp [Except.map]
          simp only
          rw [hmap, ih]
          constructor
          · rintro ⟨place, pair, hpair, hnone, rfl, hbefore⟩
            refine ⟨place + 1, pair, hpair, hnone, by rw [Nat.add_right_comm, Nat.add_assoc], ?_⟩
            intro earlier hless pair hpair
            cases earlier with
            | zero =>
                cases hpair
                simp [hfirst]
            | succ earlier => exact hbefore earlier (Nat.lt_of_succ_lt_succ hless) pair hpair
          · rintro ⟨place, pair, hpair, hnone, rfl, hbefore⟩
            cases place with
            | zero =>
                cases hpair
                simp [hfirst] at hnone
            | succ place =>
                refine ⟨place, pair, hpair, hnone, by rw [Nat.add_right_comm, Nat.add_assoc], ?_⟩
                exact fun earlier hless pair hpair =>
                  hbefore (earlier + 1) (Nat.succ_lt_succ hless) pair hpair

/-- **Parameters are sent if and only if they suit their types.** -/
theorem bindParams_eq_ok_iff {types : List WireType} {params : List Value}
    {sent : List (Option (List UInt8))} :
    bindParams types params = .ok sent ↔ Binds types params sent := by
  unfold bindParams
  split
  · rename_i hother
    exact iff_of_false (by simp) fun h => hother h.count
  · rename_i hcount
    have hcount := Decidable.of_not_not hcount
    rw [encodeFrom_eq_ok_iff]
    have hlength : (types.zip params).length = params.length := by simp [hcount]
    rw [hlength]
    constructor
    · rintro ⟨hsent, heach⟩
      refine ⟨hcount, hsent, fun place type value htype hvalue => heach place (type, value) ?_⟩
      rw [List.getElem?_zip_eq_some]
      exact ⟨htype, hvalue⟩
    · intro h
      refine ⟨h.length_eq, fun place pair hpair => ?_⟩
      rw [List.getElem?_zip_eq_some] at hpair
      exact h.encoded place pair.1 pair.2 hpair.1 hpair.2

/-- **The first parameter that does not suit its type is at fault.** -/
theorem bindParams_eq_unsuitable_iff {types : List WireType} {params : List Value} {place : Nat}
    (count : types.length = params.length) :
    bindParams types params = .error (.unsuitable place) ↔
      (∃ type value, types[place]? = some type ∧ params[place]? = some value ∧
        type.encode? value = none) ∧
      ∀ earlier < place, ∀ type value, types[earlier]? = some type →
        params[earlier]? = some value → type.encode? value ≠ none := by
  rw [bindParams, if_neg (not_not_intro count), encodeFrom_eq_error_iff]
  simp only [Prod.exists, Prod.forall, List.getElem?_zip_eq_some, Nat.zero_add,
    BindFault.unsuitable.injEq]
  constructor
  · rintro ⟨_, type, value, ⟨htype, hvalue⟩, hnone, rfl, hbefore⟩
    exact ⟨⟨type, value, htype, hvalue, hnone⟩, fun earlier hless type value htype hvalue =>
      hbefore earlier hless type value ⟨htype, hvalue⟩⟩
  · rintro ⟨⟨type, value, htype, hvalue, hnone⟩, hbefore⟩
    exact ⟨place, type, value, ⟨htype, hvalue⟩, hnone, rfl, fun earlier hless type value h =>
      hbefore earlier hless type value h.1 h.2⟩

namespace Binds

variable {types : List WireType} {params : List Value} {sent other : List (Option (List UInt8))}

theorem unique (h : Binds types params sent) (h' : Binds types params other) : other = sent := by
  have hsame := (bindParams_eq_ok_iff.2 h').symm.trans (bindParams_eq_ok_iff.2 h)
  exact Except.ok.inj hsame

/-- Null in places of four-byte integers is sent as null, and the other parameters as before. -/
theorem replaceAt_null (h : Binds types params sent) {chosen : Nat → Bool}
    (taken : ∀ (place : Nat) (type : WireType), chosen place = true → types[place]? = some type →
      type = .int4) :
    Binds types (replaceAt chosen .null params) (replaceAt chosen none sent) where
  count := by rw [length_replaceAt, h.count]
  length_eq := by rw [length_replaceAt, length_replaceAt, h.length_eq]
  encoded := by
    intro place type value htype hvalue
    rw [getElem?_replaceAt] at hvalue
    obtain ⟨before, hbefore, rfl⟩ := Option.map_eq_some_iff.1 hvalue
    obtain ⟨bytes, hbytes, hplace⟩ := h.encoded place type before htype hbefore
    rw [getElem?_replaceAt, hplace, Option.map_some]
    cases hchosen : chosen place with
    | true =>
        refine ⟨none, ?_, rfl⟩
        rw [taken place type hchosen htype]
        rfl
    | false => exact ⟨bytes, hbytes, rfl⟩

/-- **Null suits four-byte integers only.** -/
theorem replaceAt_iff (h : Binds types params sent) {chosen : Nat → Bool} :
    (∃ other, Binds types (replaceAt chosen .null params) other) ↔
      ∀ (place : Nat) (type : WireType), chosen place = true → types[place]? = some type →
        type = .int4 := by
  refine ⟨?_, fun taken => ⟨_, h.replaceAt_null taken⟩⟩
  rintro ⟨other, hother⟩ place type hchosen htype
  have hplace : place < params.length := by
    rw [← h.count]
    exact (List.getElem?_eq_some_iff.1 htype).1
  have hnull : (replaceAt chosen .null params)[place]? = some .null := by
    rw [getElem?_replaceAt, List.getElem?_eq_getElem hplace, Option.map_some, if_pos hchosen]
  obtain ⟨bytes, hbytes, -⟩ := hother.encoded place type .null htype hnull
  rw [WireType.encode?_null] at hbytes
  by_contra hne
  rw [if_neg hne] at hbytes
  cases hbytes

/-- The first chosen place of another type is at fault. -/
theorem fault_of_replaceAt (h : Binds types params sent) {chosen : Nat → Bool} {place : Nat}
    {type : WireType} (hchosen : chosen place = true) (htype : types[place]? = some type)
    (other : type ≠ .int4)
    (first : ∀ earlier < place, chosen earlier = true → types[earlier]? = some .int4) :
    bindParams types (replaceAt chosen .null params) = .error (.unsuitable place) := by
  have hplace : place < params.length := by
    rw [← h.count]
    exact (List.getElem?_eq_some_iff.1 htype).1
  refine (bindParams_eq_unsuitable_iff (by rw [length_replaceAt, h.count])).2
    ⟨⟨type, .null, htype, ?_, ?_⟩, ?_⟩
  · rw [getElem?_replaceAt, List.getElem?_eq_getElem hplace, Option.map_some, if_pos hchosen]
  · rw [WireType.encode?_null, if_neg other]
  · intro earlier hless type value htype hvalue
    rw [getElem?_replaceAt] at hvalue
    obtain ⟨before, hbefore, rfl⟩ := Option.map_eq_some_iff.1 hvalue
    cases hearlier : chosen earlier with
    | true =>
        rw [first earlier hless hearlier] at htype
        cases htype
        simp [WireType.encode?_null]
    | false =>
        obtain ⟨bytes, hbytes, -⟩ := h.encoded earlier type before htype hbefore
        simp [hbytes]

end Binds

/-! ### What a query asks of the server -/

/-- The requests in the log are those before and others, none of which binds anything. -/
def Server.Asked (before after : Server) : Prop :=
  ∃ asked, after.log = before.log ++ asked ∧ ∀ sent, Request.bind sent ∉ asked

namespace Server

theorem Asked.refl (server : Server) : server.Asked server :=
  ⟨[], (List.append_nil _).symm, fun _ => List.not_mem_nil⟩

theorem Asked.trans {first second third : Server} (h : first.Asked second)
    (h' : second.Asked third) : first.Asked third := by
  obtain ⟨asked, hlog, hnot⟩ := h
  obtain ⟨others, hlog', hnot'⟩ := h'
  refine ⟨asked ++ others, by rw [hlog', hlog, List.append_assoc], fun sent hmem => ?_⟩
  exact (List.mem_append.1 hmem).elim (hnot sent) (hnot' sent)

@[simp] theorem log_broken (server : Server) (fault : Fault) :
    (server.broken fault).2.log = server.log := by
  cases fault <;> rfl

/-- A server with a line to it logs what it is asked, and no other server does. -/
theorem log_ask (server : Server) (request : Request) (fault : Option Fault) :
    (server.ask request fault).2.log =
      if server.line = .up then server.log ++ [request] else server.log := by
  unfold ask
  cases server.line with
  | silent => rfl
  | dropped => rfl
  | up =>
      cases fault with
      | none => rfl
      | some fault => exact log_broken _ fault

theorem asked_ask (server : Server) (request : Request) (fault : Option Fault)
    (other : ∀ sent, request ≠ .bind sent) : server.Asked (server.ask request fault).2 := by
  rw [Asked, log_ask]
  split
  · refine ⟨[request], rfl, fun sent hmem => other sent ?_⟩
    exact (List.mem_singleton.1 hmem).symm
  · exact Asked.refl server

theorem asked_askParse (server : Server) (sql : String) : server.Asked (server.askParse sql).2 :=
  asked_ask server (.parse sql) _ nofun

theorem asked_askType (server : Server) : server.Asked server.askType.2 := by
  have hfirst := asked_askParse server WireType.question
  unfold askType
  split
  · rename_i next heq
    rw [heq] at hfirst
    exact hfirst.trans (asked_askParse next _)
  · rename_i response next _ heq
    rw [heq] at hfirst
    exact hfirst

end Server

namespace Session

theorem asked_sendOverdue (session : Session) : session.server.Asked session.sendOverdue.server := by
  have hfold : ∀ (queries : List String) (server : Server),
      server.Asked (queries.foldl (fun server sql => (server.askParse sql).2) server) := by
    intro queries
    induction queries with
    | nil => exact .refl
    | cons sql rest ih =>
        exact fun server => (Server.asked_askParse server sql).trans (ih _)
  exact hfold session.overdue session.server

@[simp] theorem log_readRows (session : Session) (sql : String) (statement : Statement) :
    (session.readRows sql statement).2.server.log = session.server.log := by
  unfold readRows
  split
  · rfl
  · exact Server.log_broken _ _

/-- A query of a session sends these parameters to be bound. -/
def Sends (session : Session) (sql : String) (params : List Value)
    (sent : List (Option (List UInt8))) : Prop :=
  ∃ asked, (session.query sql params).2.server.log = session.server.log ++ asked ∧
    .bind sent ∈ asked

/-- What is logged when a statement is bound. -/
theorem log_bindStatement (session : Session) (sql : String) (statement : Statement)
    (params : List Value) :
    (session.bindStatement sql statement params).2.server.log =
      match bindParams (statement.params.map WireType.ofNumber) params with
      | .error _ => session.server.log
      | .ok sent =>
          if session.server.line = .up then session.server.log ++ [.bind sent]
          else session.server.log := by
  unfold bindStatement
  cases bindParams (statement.params.map WireType.ofNumber) params with
  | error fault => rfl
  | ok sent =>
      have hlog := Server.log_ask session.server (.bind sent) (statement.faultAt .bind)
      simp only
      split
      · rw [log_readRows, hlog]
      · exact hlog

/-- **A query looks at its parameters only to bind them.**  Either its reply does not depend on them and
nothing is bound, or the statement is known and bound after requests that bind nothing. -/
theorem query_cases (session : Session) (sql : String) :
    (∃ reply next, (∀ params, session.query sql params = (reply, next)) ∧
      session.server.Asked next.server) ∨
    ∃ (statement : Statement) (prepared : Session), Table.get? session.server.script.statements sql = some statement ∧
      session.server.Asked prepared.server ∧
      ∀ params, session.query sql params = prepared.bindStatement sql statement params := by
  unfold query
  split
  · exact .inl ⟨_, _, fun _ => rfl, .refl _⟩
  split
  · exact .inl ⟨_, _, fun _ => rfl, .refl _⟩
  split
  · exact .inl ⟨_, _, fun _ => rfl, .refl _⟩
  have hasked : session.server.Asked (session.sendOverdue.server.askParse sql).2 :=
    session.asked_sendOverdue.trans (Server.asked_askParse _ sql)
  simp only [Server.script_askParse, script_sendOverdue]
  split
  · rename_i statement _ hknown
    split
    · exact .inr ⟨statement, _, hknown, hasked, fun _ => rfl⟩
    · exact .inl ⟨_, _, fun _ => rfl, hasked.trans (Server.asked_askType _)⟩
  · exact .inl ⟨_, _, fun _ => rfl, hasked⟩

/-- A query that is answered by binding its statement sends just what its parameters are encoded as. -/
theorem sends_iff {session prepared : Session} {sql : String} {statement : Statement}
    {params : List Value} {sent : List (Option (List UInt8))}
    (asked : session.server.Asked prepared.server)
    (bound : session.query sql params = prepared.bindStatement sql statement params) :
    session.Sends sql params sent ↔ prepared.server.line = .up ∧
      Binds (statement.params.map WireType.ofNumber) params sent := by
  obtain ⟨before, hlog, hnot⟩ := asked
  rw [← bindParams_eq_ok_iff, Sends, bound, log_bindStatement]
  cases hbind : bindParams (statement.params.map WireType.ofNumber) params with
  | error fault =>
      refine iff_of_false ?_ (by simp)
      rintro ⟨others, hothers, hmem⟩
      simp only [hlog, List.append_cancel_left_eq] at hothers
      exact hnot sent (hothers ▸ hmem)
  | ok found =>
      by_cases hup : prepared.server.line = .up
      · simp only [hup, if_true, true_and, Except.ok.injEq, hlog, List.append_assoc,
          List.append_cancel_left_eq]
        constructor
        · rintro ⟨others, rfl, hmem⟩
          have hlast := (List.mem_append.1 hmem).resolve_left (hnot sent)
          cases List.mem_singleton.1 hlast
          rfl
        · rintro rfl
          exact ⟨_, rfl, List.mem_append_right _ (List.mem_singleton_self _)⟩
      · refine iff_of_false ?_ fun h => hup h.1
        rintro ⟨others, hothers, hmem⟩
        simp only [hup, if_false, hlog, List.append_cancel_left_eq] at hothers
        exact hnot sent (hothers ▸ hmem)

/-- A query that sends something binds its statement. -/
theorem Sends.bound {session : Session} {sql : String} {params : List Value}
    {sent : List (Option (List UInt8))} (h : session.Sends sql params sent) :
    ∃ (statement : Statement) (prepared : Session),
      Table.get? session.server.script.statements sql = some statement ∧
      session.server.Asked prepared.server ∧
      ∀ params, session.query sql params = prepared.bindStatement sql statement params := by
  rcases session.query_cases sql with ⟨reply, next, hquery, before, hlog, hnot⟩ | hbound
  · obtain ⟨asked, hasked, hmem⟩ := h
    rw [hquery, hlog] at hasked
    exact absurd (List.append_cancel_left hasked ▸ hmem) (hnot sent)
  · exact hbound

/-! ### Replies do not depend on what is bound -/

theorem reply_readRows (session other : Session) (sql : String) (statement : Statement) :
    (session.readRows sql statement).1 = (other.readRows sql statement).1 := by
  unfold readRows
  split
  · rfl
  · rename_i fault _
    cases fault <;> rfl

theorem reply_bindStatement {session : Session} {sql : String} {statement : Statement}
    {params others : List Value} {sent found : List (Option (List UInt8))}
    (h : Binds (statement.params.map WireType.ofNumber) params sent)
    (h' : Binds (statement.params.map WireType.ofNumber) others found) :
    (session.bindStatement sql statement params).1 =
      (session.bindStatement sql statement others).1 := by
  have hresponse : (session.server.ask (.bind sent) (statement.faultAt .bind)).1 =
      (session.server.ask (.bind found) (statement.faultAt .bind)).1 := by
    unfold Server.ask
    cases session.server.line with
    | silent => rfl
    | dropped => rfl
    | up =>
        cases statement.faultAt .bind with
        | none => rfl
        | some fault => cases fault <;> rfl
  rw [bindStatement, bindStatement, bindParams_eq_ok_iff.2 h, bindParams_eq_ok_iff.2 h']
  simp only [hresponse]
  cases (session.server.ask (.bind found) (statement.faultAt .bind)).1 with
  | answered => exact reply_readRows _ _ sql statement
  | failed => rfl
  | lost => rfl
  | nothing => rfl

/-- **Null is sent just where four-byte integers are declared.**  Of parameters that were accepted, some
are replaced by null.  They are accepted if and only if each of these places is declared a four-byte
integer; then null is sent there, the others are sent as before, and the reply is the same.  Otherwise the
first of these places that is declared another type is at fault. -/
theorem nulls_sent_iff {session : Session} {sql : String} {params : List Value}
    {sent : List (Option (List UInt8))} (accepted : session.Sends sql params sent)
    (chosen : Nat → Bool) :
    ∃ statement, Table.get? session.server.script.statements sql = some statement ∧
      ((∃ other, session.Sends sql (replaceAt chosen .null params) other) ↔
        ∀ (place number : Nat), chosen place = true → statement.params[place]? = some number →
          WireType.ofNumber number = .int4) ∧
      (∀ other, session.Sends sql (replaceAt chosen .null params) other →
        other = replaceAt chosen none sent ∧
        (session.query sql (replaceAt chosen .null params)).1 = (session.query sql params).1) ∧
      ∀ (place number : Nat), chosen place = true → statement.params[place]? = some number →
        WireType.ofNumber number ≠ .int4 →
        (∀ earlier < place, chosen earlier = true →
          ∃ number, statement.params[earlier]? = some number ∧ WireType.ofNumber number = .int4) →
        (session.query sql (replaceAt chosen .null params)).1 =
          .refused (.query (BindFault.unsuitable place).message (some sql)) 0 := by
  obtain ⟨statement, prepared, hknown, hasked, hbound⟩ := accepted.bound
  obtain ⟨hup, hbinds⟩ := (sends_iff hasked (hbound params)).1 accepted
  have hsends : ∀ other, session.Sends sql (replaceAt chosen .null params) other ↔
      Binds (statement.params.map WireType.ofNumber) (replaceAt chosen .null params) other :=
    fun other => (sends_iff hasked (hbound _)).trans (and_iff_right hup)
  refine ⟨statement, hknown, ?_, ?_, ?_⟩
  · simp only [hsends]
    rw [hbinds.replaceAt_iff]
    simp only [List.getElem?_map, Option.map_eq_some_iff]
    constructor
    · exact fun h place number hchosen hnumber => h place _ hchosen ⟨number, hnumber, rfl⟩
    · rintro h place _ hchosen ⟨number, hnumber, rfl⟩
      exact h place number hchosen hnumber
  · intro other hother
    have hnulls := (hsends other).1 hother
    have hsame := hbinds.replaceAt_null (hbinds.replaceAt_iff.1 ⟨other, hnulls⟩)
    refine ⟨hsame.unique hnulls, ?_⟩
    rw [hbound, hbound, reply_bindStatement hnulls hbinds]
  · intro place number hchosen hnumber hother hfirst
    have htype : (statement.params.map WireType.ofNumber)[place]? =
        some (WireType.ofNumber number) := by
      rw [List.getElem?_map, hnumber, Option.map_some]
    have hfault := hbinds.fault_of_replaceAt hchosen htype hother fun earlier hless hearlier => by
      obtain ⟨number, hnumber, hint⟩ := hfirst earlier hless hearlier
      rw [List.getElem?_map, hnumber, Option.map_some, hint]
    rw [hbound, bindStatement, hfault]

/-- A statement with a parameter of four bytes and one of eight. -/
def transfer : Statement where
  params := [23, 20]
  columns := []
  rows := []
  trouble := none

theorem sends_transfer : transfer.session.Sends "q" [.int32 7, .int64 5]
    [some [0, 0, 0, 7], some [0, 0, 0, 0, 0, 0, 0, 5]] :=
  ⟨[.parse "q", .bind [some [0, 0, 0, 7], some [0, 0, 0, 0, 0, 0, 0, 5]]], rfl, by simp⟩

/-- The null for four bytes is sent, and the one for eight bytes is refused. -/
theorem nulls_sent_iff_transfer :
    transfer.session.Sends "q" [.int32 7, .int64 5]
      [some [0, 0, 0, 7], some [0, 0, 0, 0, 0, 0, 0, 5]] ∧
    transfer.session.Sends "q" [.null, .int64 5] [none, some [0, 0, 0, 0, 0, 0, 0, 5]] ∧
    (transfer.session.query "q" [.int32 7, .null]).1 =
      .refused (.query "error serializing parameter 1" (some "q")) 0 := by
  refine ⟨sends_transfer, ?_, ?_⟩
  · obtain ⟨statement, hknown, hiff, hsame, -⟩ := nulls_sent_iff sends_transfer (· == 0)
    cases hknown
    obtain ⟨other, hother⟩ := hiff.2 fun place number hchosen hnumber => by
      cases beq_iff_eq.1 hchosen
      cases hnumber
      rfl
    cases (hsame other hother).1
    exact hother
  · obtain ⟨statement, hknown, -, -, hfault⟩ := nulls_sent_iff sends_transfer (· == 1)
    cases hknown
    refine hfault 1 20 rfl rfl (by decide) fun earlier hless hchosen => ?_
    cases beq_iff_eq.1 hchosen
    exact absurd hless (by decide)

/-- A place that takes a value may refuse null. -/
theorem accepted_place_refuses_null :
    ¬ ∀ (session : Session) (sql : String) (params : List Value)
      (sent : List (Option (List UInt8))) (chosen : Nat → Bool),
      session.Sends sql params sent →
        session.Sends sql (replaceAt chosen .null params) (replaceAt chosen none sent) := by
  intro taken
  obtain ⟨asked, hlog, hmem⟩ := taken _ _ _ _ (· == 1) sends_transfer
  have hasked : [.parse "q"] = asked := hlog
  rw [← hasked] at hmem
  cases List.mem_singleton.1 hmem

end Session

end QueryFeed.Postgres
