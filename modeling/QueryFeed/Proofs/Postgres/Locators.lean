import QueryFeed.Postgres.Target
import QueryFeed.Proofs.Url.Reading

/-!
**Where a client reads the password of a locator.**

A client cuts its locator in its own way: the credentials end at the first `@`, whatever stands before
it, and the settings after the question mark follow the name of the database.  So a password may stand
in either place; it is taken from there, and the rest is read in the same way whatever the password is.

Main definitions: `Postgres.Account`, `Account.inCredentials`, `Account.inSettings`.

Main results:

* `Postgres.Account.ofText?_inCredentials` — **any password without `@` is taken from the credentials**;
* `Postgres.Account.ofText?_inSettings` — **a password is taken from the settings**.
-/

set_option autoImplicit false

namespace QueryFeed.Postgres

open Text (IsName IsPlain)

/-! ### Accounts -/

/-- A user of a database. -/
structure Account where
  user : List Char
  host : List Char
  database : List Char
  isUser : IsName user
  isHost : IsName host
  isDatabase : IsName database

namespace Account

/-- The locator that gives the password after the user. -/
def inCredentials (account : Account) (password : List Char) : String :=
  String.ofList (Url.postgres ++ ':' :: '/' :: '/' ::
    (account.user ++ ':' :: password ++ '@' :: (account.host ++ '/' :: account.database)))

/-- The locator that gives the password as a setting. -/
def inSettings (account : Account) (password : List Char) : String :=
  String.ofList (Url.postgres ++ ':' :: '/' :: '/' ::
    (account.user ++ '@' :: (account.host ++ '/' :: (account.database ++
      '?' :: ("password=".toList ++ password)))))

/-- The server of an account on its usual port, the user with the password, and the database. -/
def target (account : Account) (password : List UInt8) : Target :=
  { Target.empty with
    user := some (String.ofList account.user)
    password := some password
    database := some (String.ofList account.database)
    hosts := [.named (String.ofList account.host)]
    ports := [5432] }

end Account

namespace Target

/-! ### Names -/

theorem decoded?_of_plain {text : List Char} (h : IsPlain text) :
    decoded? text = some (String.ofList text) := by
  rw [decoded?, Url.unescape_of_not_mem (h.not_mem (by decide)), Text.textOfUtf8?_utf8]

/-- A name is no directory. -/
theorem withHost_of_name (target : Target) {host : List Char} (h : IsName host) :
    target.withHost host = some
      { target with hosts := target.hosts ++ [.named (String.ofList host)] } := by
  obtain ⟨c, rest, rfl⟩ := List.exists_cons_of_ne_nil h.ne_nil
  have hfirst : c.isAlphanum = true := h.plain c List.mem_cons_self
  have hcode : UInt8.ofNat c.toNat ≠ 47 :=
    Text.forall_alphanum (P := fun c => UInt8.ofNat c.toNat ≠ 47) (by decide +kernel) hfirst
  have hbytes := Url.unescape_of_not_mem (h.plain.not_mem (c := '%') (by decide))
  have hhead : (Text.utf8 (String.ofList (c :: rest))).head? ≠ some 47 := by
    rw [Text.utf8_ofList_cons, Text.utf8_of_alphanum hfirst]
    exact fun heq => hcode (Option.some.inj heq)
  rw [withHost, hbytes]
  simp only [hhead, if_false, Text.textOfUtf8?_utf8]
  rfl

/-- A name is a host on its usual port. -/
theorem withHosts_of_name (target : Target) {host : List Char} (h : IsName host) :
    target.withHosts (Url.splitAt ',' host) = some
      { target with
        hosts := target.hosts ++ [.named (String.ofList host)]
        ports := target.ports ++ [5432] } := by
  obtain ⟨c, rest, rfl⟩ := List.exists_cons_of_ne_nil h.ne_nil
  have hopen : c ≠ '[' := Text.ne_of_alphanum (h.plain c List.mem_cons_self) (by decide)
  have hport : splitPort? (c :: rest) = some (c :: rest, none) := by
    unfold splitPort?
    split
    · rename_i heq
      exact absurd (List.cons.inj heq).1 hopen
    · rw [Url.cutAt?_of_not_mem (h.plain.not_mem (by decide))]
  have hdecoded : decoded? ((none : Option (List Char)).getD "5432".toList) = some "5432" :=
    decoded?_of_plain (by decide)
  have husual : ∀ target : Target, target.withSetting "port" "5432" =
      some { target with ports := target.ports ++ [5432] } := fun _ => rfl
  rw [Url.splitAt_of_not_mem (h.plain.not_mem (by decide)), withHosts]
  simp only [Option.bind_eq_bind, hport, Option.bind_some, withHost_of_name target h, hdecoded,
    husual, withHosts]

/-! ### Users -/

/-- What follows the first colon is the password. -/
theorem withUser_append (target : Target) {user : List Char} (h : IsName user)
    (password : List Char) :
    target.withUser (user ++ ':' :: password) =
      some { target with
        user := some (String.ofList user)
        password := some (Url.unescape password) } := by
  rw [withUser, Url.cutAt?_append (h.plain.not_mem (by decide))]
  simp only [decoded?_of_plain h.plain]
  rfl

theorem withUser_of_name (target : Target) {user : List Char} (h : IsName user) :
    target.withUser user = some { target with user := some (String.ofList user) } := by
  rw [withUser, Url.cutAt?_of_not_mem (h.plain.not_mem (by decide))]
  simp only [decoded?_of_plain h.plain]
  rfl

/-! ### Locators -/

/-- The credentials end at the first `@`, the host at the next slash, and the database at the next
question mark. -/
theorem ofLocator?_append (account : Account) {before query : List Char} (h : '@' ∉ before)
    {password : Option (List UInt8)}
    (read : empty.withUser before = some { empty with
      user := some (String.ofList account.user)
      password := password })
    (mark : ∀ c ∈ query.head?, c = '?') :
    ofLocator? (before ++ '@' :: (account.host ++ '/' :: (account.database ++ query))) =
      ({ account.target [] with password := password } : Target).withQuery (query.drop 1).length
        (query.drop 1) := by
  obtain ⟨user, host, database, huser, hhost, hdatabase⟩ := account
  have hcut := Url.cutAt?_append h (host ++ '/' :: (database ++ query))
  have hend : ∀ c ∈ host, (!(decide (c = '/') || decide (c = '?'))) = true := by
    intro c hmem
    have hslash : c ≠ '/' := Text.ne_of_alphanum (hhost.plain c hmem) (by decide)
    have hquestion : c ≠ '?' := Text.ne_of_alphanum (hhost.plain c hmem) (by decide)
    simp [hslash, hquestion]
  have hslash : ∀ c ∈ ('/' :: (database ++ query)).head?,
      (!(decide (c = '/') || decide (c = '?'))) = false := by
    rintro c ⟨⟩
    rfl
  have hname : ∀ c ∈ database, (c != '?') = true :=
    Text.ne_of_not_mem (hdatabase.plain.not_mem (by decide))
  have hquery : ∀ c ∈ query.head?, (c != '?') = false := fun c hmem => by
    rw [mark c hmem]
    rfl
  have hfilled : host.isEmpty = false := List.isEmpty_eq_false_iff.2 hhost.ne_nil
  have hnamed : database.isEmpty = false := List.isEmpty_eq_false_iff.2 hdatabase.ne_nil
  simp only [ofLocator?, hcut, read, Option.bind_eq_bind, Option.map_some, Option.bind_some,
    Text.takeWhile_append hend hslash, Text.dropWhile_append hend hslash, hfilled,
    withHosts_of_name _ hhost, Text.takeWhile_append hname hquery,
    Text.dropWhile_append hname hquery, hnamed, decoded?_of_plain hdatabase.plain,
    Bool.false_eq_true, if_false]
  rfl

theorem withQuery_nil (steps : Nat) (target : Target) : target.withQuery steps [] = some target := by
  cases steps <;> rfl

/-- A setting that stands alone. -/
theorem withQuery_of_cut {target next : Target} {text name value : List Char}
    {word setting : String} (cut : Url.cutAt? ['='] text = some (name, value))
    (last : Url.cutAt? ['&'] value = none) (hname : decoded? name = some word) (other : word ≠ "host")
    (hvalue : decoded? value = some setting) (taken : target.withSetting word setting = some next)
    (steps : Nat) : withQuery (steps + 1) target text = some next := by
  have hfilled : text.isEmpty = false := by
    cases text with
    | nil => cases cut
    | cons c rest => rfl
  simp only [withQuery, hfilled, Bool.false_eq_true, if_false, cut, last, hname, other, hvalue, taken,
    Option.bind_eq_bind, Option.bind_some, Option.getD_none, withQuery_nil]

/-- The password is taken, and nothing else changes. -/
theorem withQuery_password (target : Target) {password : List Char} (h : IsPlain password)
    (steps : Nat) : withQuery (steps + 1) target ("password=".toList ++ password) =
      some { target with password := some (Text.utf8 (String.ofList password)) } :=
  withQuery_of_cut
    (Url.cutAt?_append (show '=' ∉ "password".toList by decide) password)
    (Url.cutAt?_of_not_mem (h.not_mem (by decide)))
    (decoded?_of_plain (by decide)) (by decide) (decoded?_of_plain h) rfl steps

/-- What follows the scheme is read as a locator. -/
theorem ofText?_postgres (body : List Char) :
    ofText? (String.ofList (Url.postgres ++ ':' :: '/' :: '/' :: body)) = ofLocator? body := by
  rw [ofText?, String.toList_ofList]
  rfl

end Target

namespace Account

/-- **Any password without `@` is taken from the credentials**, where its bytes may be escaped. -/
theorem ofText?_inCredentials (account : Account) {password : List Char} (h : '@' ∉ password) :
    Target.ofText? (account.inCredentials password) =
      some (account.target (Url.unescape password)) := by
  have hbefore : '@' ∉ account.user ++ ':' :: password := by
    rw [List.mem_append, List.mem_cons]
    rintro (hmem | hcolon | hmem)
    · exact account.isUser.plain.not_mem (by decide) hmem
    · exact absurd hcolon (by decide)
    · exact h hmem
  have hquery : ∀ c ∈ ([] : List Char).head?, c = '?' := fun _ hmem => by cases hmem
  have hread := Target.ofLocator?_append account hbefore
    (Target.withUser_append Target.empty account.isUser password) hquery
  rw [List.append_nil] at hread
  rw [inCredentials, Target.ofText?_postgres, hread]
  rfl

/-- **A password is taken from the settings.** -/
theorem ofText?_inSettings (account : Account) {password : List Char} (h : IsPlain password) :
    Target.ofText? (account.inSettings password) =
      some (account.target (Text.utf8 (String.ofList password))) := by
  have hquery : ∀ c ∈ ('?' :: ("password=".toList ++ password)).head?, c = '?' :=
    fun _ hmem => (Option.some.inj hmem).symm
  have hread := Target.ofLocator?_append account (account.isUser.plain.not_mem (by decide))
    (Target.withUser_of_name Target.empty account.isUser) hquery
  rw [inSettings, Target.ofText?_postgres, hread]
  exact Target.withQuery_password _ h _

end Account

end QueryFeed.Postgres
