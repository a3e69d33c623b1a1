import Mathlib.Data.List.TakeWhile
import QueryFeed.Database.Settings
import QueryFeed.Proofs.Postgres.Locators
import QueryFeed.Proofs.Text.Numeral

/-!
**What diagnostics show of a password.**

The mask is put where the locator, read by the general rules, has a password: between the first colon
of the authority and its last `@`.  A slash, a question mark or a number sign ends the authority, so
a password with one of them is not seen as one, though a client takes it; and a password among the
settings is not masked at all.

Main definitions: `Database.IsPassword`, `Database.IsUnmarked`.

Main results:

* `Database.redacted_of_unmarked`, `Database.redacted_of_marked` — **a password among the credentials is
  masked just if it has none of these marks**;
* `Database.redacted_inSettings` — **a locator with a password among its settings is shown as it is**;
* `Database.passwords_masked` — both for a client that takes the password from either place.
-/

set_option autoImplicit false

namespace QueryFeed.Database

open Text (IsName IsPlain)
open Postgres (Account)

/-- A password that may stand before an `@`. -/
structure IsPassword (password : List Char) : Prop where
  ne_nil : password ≠ []
  unbroken : ∀ c ∈ password, c ∉ ['@', '\t', '\n', '\r']

theorem IsPassword.not_mem {password : List Char} (h : IsPassword password) : '@' ∉ password :=
  fun hmem => h.unbroken '@' hmem List.mem_cons_self

/-- Without the marks that end an authority. -/
def IsUnmarked (password : List Char) : Prop := ∀ c ∈ password, c ∉ ['/', '?', '#']

instance (password : List Char) : Decidable (IsUnmarked password) :=
  decidable_of_iff ((password.all fun c => c ∉ ['/', '?', '#']) = true) (by simp [IsUnmarked])

/-- What is in front of the first mark, or of a backslash, read as a port. -/
def leadingPort? (password : List Char) : Option (Option Nat) :=
  Url.port? Url.postgres (password.takeWhile fun c => c ∉ ['\\', '/', '?', '#'])

/-- A password with a mark falls apart at its first mark. -/
theorem exists_first_mark {password : List Char} (marked : ¬ IsUnmarked password) :
    ∃ first mark rest, first ++ mark :: rest = password ∧
      (∀ c ∈ first, Url.endsAuthority false c = false) ∧ Url.endsAuthority false mark = true ∧
      leadingPort? password = Url.port? Url.postgres (first.takeWhile (· != '\\')) := by
  have happend := List.takeWhile_append_dropWhile (p := (!Url.endsAuthority false ·))
    (l := password)
  have hfirst : ∀ c ∈ password.takeWhile (!Url.endsAuthority false ·),
      Url.endsAuthority false c = false := fun c hmem => by
    simpa using List.mem_takeWhile_imp hmem
  have hhead := List.head?_dropWhile_not (!Url.endsAuthority false ·) password
  cases hdrop : password.dropWhile (!Url.endsAuthority false ·) with
  | nil =>
      rw [hdrop, List.append_nil] at happend
      rw [happend] at hfirst
      exact absurd (fun c hmem => Url.endsAuthority_eq_false_iff.1 (hfirst c hmem)) marked
  | cons mark rest =>
      have hmark : Url.endsAuthority false mark = true := by
        rw [hdrop] at hhead
        simpa using hhead
      have hmarks : (fun c : Char => decide (c ∉ ['\\', '/', '?', '#'])) =
          fun c => c != '\\' && !Url.endsAuthority false c := by
        funext c
        simp [Url.endsAuthority, bne, Bool.and_assoc, beq_eq_decide]
      refine ⟨_, mark, rest, hdrop ▸ happend, hfirst, hmark, ?_⟩
      rw [List.takeWhile_takeWhile, leadingPort?]
      simp only [hmarks, Bool.decide_and, Bool.decide_coe]

/-! ### Texts without credentials -/

/-- A text with a scheme is not the mask alone. -/
theorem ofList_postgres_ne (rest : List Char) : String.ofList (Url.postgres ++ rest) ≠ "***" := by
  intro heq
  have hlist := congrArg String.toList heq
  rw [String.toList_ofList] at hlist
  have hfirst : 'p' = '*' := (List.cons.inj hlist).1
  exact absurd hfirst (by decide)

/-- A text without credentials shows no mask behind its host: a port begins with a digit, and all else
with another mark. -/
theorem text_ne_masked (host : List Char) (port : Option Nat) (segments : List (List Char))
    (query fragment : Option (List Char)) (more : List Char) :
    (⟨Url.postgres, some ⟨[], [], .name host, port⟩, .segments segments, query, fragment⟩ :
        Url).text ≠
      String.ofList (Url.postgres ++ ':' :: '/' :: '/' :: (host ++ ':' :: '*' :: more)) := by
  intro heq
  have hlist := String.ofList_injective heq
  simp only [Url.Authority.text, Url.Host.text, Url.Path.text, List.append_assoc,
    List.append_cancel_left_eq, List.cons_append, List.nil_append, List.isEmpty_nil, if_true,
    List.cons.injEq, true_and] at hlist
  cases port with
  | some port =>
      obtain ⟨digit, digits, hdigits⟩ := List.exists_cons_of_ne_nil (Text.decimal_ne_nil port)
      obtain ⟨value, hvalue, hdigit⟩ := Text.mem_numeral (show 0 < 10 by decide)
        (hdigits ▸ List.mem_cons_self : digit ∈ Text.decimal port)
      have hstar : ∀ value < 10, Text.digitChar value ≠ '*' := by decide
      simp only [hdigits, List.cons_append, List.cons.injEq, true_and] at hlist
      exact hstar value hvalue (hdigit ▸ hlist.1)
  | none =>
      rcases segments with _ | ⟨segment, segments⟩
      · rcases query with _ | query
        · rcases fragment with _ | fragment
          · cases hlist
          · exact absurd (List.cons.inj hlist).1 (show '#' ≠ ':' by decide)
        · exact absurd (List.cons.inj hlist).1 (show '?' ≠ ':' by decide)
      · exact absurd (List.cons.inj hlist).1 (show '/' ≠ ':' by decide)

/-! ### Passwords among the credentials -/

section

variable (account : Account) {password : List Char}

/-- The locators of an account are clean. -/
theorem cleaned_inCredentials (h : IsPassword password) :
    Url.cleaned (account.inCredentials password).toList =
      (account.inCredentials password).toList := by
  have hpassword : ∀ c ∈ password, c ∉ ['\t', '\n', '\r'] := fun c hmem hbreak =>
    h.unbroken c hmem (List.mem_cons_of_mem _ hbreak)
  have hunbroken : ∀ c ∈ account.user ++ ':' :: password ++ '@' :: (account.host ++ ['/']),
      c ∉ ['\t', '\n', '\r'] := by
    simp only [List.forall_mem_append, List.forall_mem_cons]
    exact ⟨⟨account.isUser.plain.avoids (by decide), by decide, hpassword⟩, by decide,
      account.isHost.plain.avoids (by decide), by decide, List.forall_mem_nil _⟩
  have hclean := Url.cleaned_postgres account.isDatabase.plain account.isDatabase.ne_nil hunbroken
  rw [Account.inCredentials, String.toList_ofList]
  simpa using hclean

/-- A password without marks is read as one. -/
theorem ofText?_of_unmarked (h : IsPassword password) (unmarked : IsUnmarked password) :
    Url.ofText? (account.inCredentials password) = some
      ⟨Url.postgres,
        some ⟨account.user, Url.escape Url.userSet password, .name account.host, none⟩,
        .segments [account.database], none, none⟩ := by
  have hbody : account.user ++ ':' :: password ++ '@' :: (account.host ++ '/' :: account.database) =
      account.user ++ ':' :: password ++ '@' :: account.host ++ '/' :: account.database ++ [] := by
    simp
  have hinside : ∀ c ∈ account.user ++ ':' :: password, Url.endsAuthority false c = false := by
    simp only [List.forall_mem_append, List.forall_mem_cons]
    exact ⟨Url.endsAuthority_of_plain account.isUser.plain, rfl, fun c hmem =>
      Url.endsAuthority_eq_false_iff.2 (unmarked c hmem)⟩
  have hclean := cleaned_inCredentials account h
  rw [Account.inCredentials, String.toList_ofList, hbody] at hclean
  have hread := Url.ofText?_credentials hclean hinside account.isHost account.isDatabase
    (fun _ hmem => by cases hmem) List.not_mem_nil
  rw [Url.credentials_append (account.isUser.plain.not_mem (by decide)),
    Url.escape_of_plain (by decide) account.isUser.plain] at hread
  rw [Account.inCredentials, hbody, hread]
  rfl

/-- Of a password with a mark, what is in front of the mark is read as a port. -/
theorem ofText?_of_marked (h : IsPassword password) (marked : ¬ IsUnmarked password) :
    ∃ segments query fragment,
      Url.ofText? (account.inCredentials password) = (leadingPort? password).map fun port =>
        ⟨Url.postgres, some ⟨[], [], .name account.user, port⟩, .segments segments, query,
          fragment⟩ := by
  obtain ⟨first, mark, rest, happend, hfirst, hmark, hport⟩ := exists_first_mark marked
  -- the general rules see an authority of the user and what is in front of the mark
  have hbody : account.user ++ ':' :: password ++ '@' :: (account.host ++ '/' :: account.database) =
      (account.user ++ ':' :: first) ++
        (mark :: rest ++ '@' :: (account.host ++ '/' :: account.database)) := by
    simp [← happend]
  have hinside : ∀ c ∈ account.user ++ ':' :: first, Url.endsAuthority false c = false := by
    simp only [List.forall_mem_append, List.forall_mem_cons]
    exact ⟨Url.endsAuthority_of_plain account.isUser.plain, rfl, hfirst⟩
  have hends : ∀ c ∈ (mark :: rest ++ '@' :: (account.host ++ '/' :: account.database)).head?,
      Url.endsAuthority false c = true := by
    rintro c ⟨⟩
    exact hmark
  have hat : '@' ∉ first := fun hmem => h.not_mem (happend ▸ List.mem_append_left _ hmem)
  have hclean := cleaned_inCredentials account h
  rw [Account.inCredentials, String.toList_ofList, hbody] at hclean
  obtain ⟨followed, path, query, fragment, hread⟩ := Url.ofText?_append hclean hinside hends
  obtain ⟨segments, hsegments⟩ :=
    Url.exists_segments (first.drop (first.takeWhile (· != '\\')).length ++ path)
  refine ⟨segments, query, fragment, ?_⟩
  rw [Account.inCredentials, hbody, hread, Url.authorityOf?_host account.isUser hat, hport,
    Option.map_map, ← hsegments]
  rfl

/-! ### What is shown -/

/-- A password without marks is masked. -/
theorem redacted_of_unmarked (h : IsPassword password) (unmarked : IsUnmarked password) :
    redacted (account.inCredentials password) = account.inCredentials "***".toList := by
  have hfilled : (Url.escape Url.userSet password).isEmpty = false :=
    List.isEmpty_eq_false_iff.2 (Url.escape_ne_nil Url.userSet h.ne_nil)
  rw [redacted, ofText?_of_unmarked account h unmarked]
  have hmask : "***".toList.isEmpty = false := rfl
  have hcredentials : (account.user ++ ':' :: "***".toList).isEmpty = false :=
    List.isEmpty_eq_false_iff.2 (List.append_ne_nil_of_left_ne_nil account.isUser.ne_nil _)
  simp only [Url.maskPassword, Option.map_some, hfilled, Bool.false_eq_true, if_false, Url.text,
    Url.Authority.text, Url.Host.text, Url.Path.text, hmask, hcredentials, Account.inCredentials]
  simp

/-- A password with a mark is shown, or all of the locator is masked. -/
theorem redacted_of_marked (h : IsPassword password) (marked : ¬ IsUnmarked password) :
    redacted (account.inCredentials password) ≠ account.inCredentials "***".toList ∧
      (redacted (account.inCredentials password) = "***" ↔ leadingPort? password = none) := by
  obtain ⟨segments, query, fragment, hread⟩ := ofText?_of_marked account h marked
  rw [redacted, hread]
  cases hport : leadingPort? password with
  | none => exact ⟨(ofList_postgres_ne _).symm, fun _ => rfl, fun _ => rfl⟩
  | some port =>
      have hmasked := text_ne_masked account.user port segments query fragment
        ("**".toList ++ '@' :: (account.host ++ '/' :: account.database))
      have hshown : ((⟨Url.postgres, some ⟨[], [], .name account.user, port⟩, .segments segments,
          query, fragment⟩ : Url).maskPassword "***".toList) = ⟨Url.postgres,
            some ⟨[], [], .name account.user, port⟩, .segments segments, query, fragment⟩ := rfl
      simp only [Option.map_some, hshown]
      refine ⟨?_, fun heq => ?_, fun hnone => by cases hnone⟩
      · have hform : account.inCredentials "***".toList = String.ofList
            (Url.postgres ++ ':' :: '/' :: '/' :: (account.user ++ ':' :: '*' ::
              ("**".toList ++ '@' :: (account.host ++ '/' :: account.database)))) := by
          simp [Account.inCredentials]
        rw [hform]
        exact hmasked
      · simp only [Url.text, List.append_assoc] at heq
        exact absurd heq (ofList_postgres_ne _)

end

/-! ### Passwords among the settings -/

section

variable (account : Account) {password : List Char}

/-- A password among the settings is read as a query. -/
theorem ofText?_inSettings (filled : password ≠ []) (plain : IsPlain password) :
    Url.ofText? (account.inSettings password) = some
      ⟨Url.postgres, some ⟨account.user, [], .name account.host, none⟩,
        .segments [account.database], some ("password=".toList ++ password), none⟩ := by
  have hbody : account.user ++ '@' :: (account.host ++ '/' :: (account.database ++
      '?' :: ("password=".toList ++ password))) =
      account.user ++ '@' :: account.host ++ '/' :: account.database ++
        '?' :: ("password=".toList ++ password) := by simp
  have hlast : account.user ++ '@' :: account.host ++ '/' :: account.database ++
        '?' :: ("password=".toList ++ password) =
      (account.user ++ '@' :: account.host ++ '/' :: account.database ++ "?password=".toList) ++
        password := by simp
  have hunbroken : ∀ c ∈ account.user ++ '@' :: account.host ++ '/' :: account.database ++
      "?password=".toList, c ∉ ['\t', '\n', '\r'] := by
    simp only [List.forall_mem_append, List.forall_mem_cons]
    exact ⟨⟨⟨account.isUser.plain.avoids (by decide), by decide,
      account.isHost.plain.avoids (by decide)⟩, by decide,
      account.isDatabase.plain.avoids (by decide)⟩, Text.forall_mem_of_all (by decide)⟩
  have hclean := Url.cleaned_postgres plain filled hunbroken
  have hwhole : '#' ∉ '?' :: ("password=".toList ++ password) := by
    simp only [List.mem_append, List.mem_cons, not_or]
    exact ⟨by decide, by decide, plain.not_mem (by decide)⟩
  have hquery : Url.escape Url.querySet ("password=".toList ++ password) =
      "password=".toList ++ password := by
    refine Url.escape_eq_self (List.forall_mem_append.2 ⟨?_, fun c hmem => ?_⟩)
    · exact Text.forall_mem_of_all (by decide)
    · exact Url.isEscaped_of_alphanum (by decide) (plain c hmem)
  rw [← hlast] at hclean
  have hread := Url.ofText?_credentials hclean (Url.endsAuthority_of_plain account.isUser.plain)
    account.isHost account.isDatabase (fun _ hmem => (Option.some.inj hmem).symm) hwhole
  rw [Url.credentials_of_not_mem (account.isUser.plain.not_mem (by decide)),
    Url.escape_of_plain (by decide) account.isUser.plain, Url.cutAtMark_mark, Option.map_some,
    hquery] at hread
  rw [Account.inSettings, hbody, hread]

/-- **A locator with a password among its settings is shown as it is.** -/
theorem redacted_inSettings (filled : password ≠ []) (plain : IsPlain password) :
    redacted (account.inSettings password) = account.inSettings password := by
  have hcredentials : (account.user ++ []).isEmpty = false :=
    List.isEmpty_eq_false_iff.2 (List.append_ne_nil_of_left_ne_nil account.isUser.ne_nil _)
  rw [redacted, ofText?_inSettings account filled plain]
  simp only [Url.maskPassword, Option.map_some, List.isEmpty_nil, if_true, Url.text,
    Url.Authority.text, Url.Host.text, Url.Path.text, hcredentials, Account.inSettings]
  simp

end

/-! ### Diagnostics -/

/-- Of the locator, diagnostics show the quoted form of what is left of it. -/
theorem describe_eq_iff (settings : Settings) (first second : String) :
    { settings with url := first }.describe = { settings with url := second }.describe ↔
      Text.quote (redacted first) = Text.quote (redacted second) := by
  unfold Settings.describe
  rw [String.append_left_inj, String.append_left_inj, String.append_left_inj,
    String.append_left_inj, String.append_left_inj, String.append_left_inj,
    String.append_left_inj, String.append_right_inj]

/-- The locator stands between quotation marks as it is. -/
theorem quote_inSettings (account : Account) {password : List Char} (plain : IsPlain password) :
    Text.quote (account.inSettings password) =
      String.ofList ('"' :: (account.inSettings password).toList ++ ['"']) := by
  have hplain : ∀ {text : List Char}, IsPlain text → ∀ c ∈ text, Text.quoteChar c = [c] :=
    fun plain c hmem => Text.quoteChar_of_alphanum (plain c hmem)
  have heach : ∀ c ∈ (account.inSettings password).toList, Text.quoteChar c = [c] := by
    rw [Account.inSettings, String.toList_ofList]
    simp only [List.forall_mem_append, List.forall_mem_cons]
    exact ⟨hplain (by decide), by decide, by decide, by decide, hplain account.isUser.plain,
      by decide, hplain account.isHost.plain, by decide, hplain account.isDatabase.plain,
      by decide, Text.forall_mem_of_all (by decide), hplain plain⟩
  rw [Text.quote, Text.flatMap_quoteChar heach]

theorem inSettings_injective (account : Account) {first second : List Char}
    (same : account.inSettings first = account.inSettings second) : first = second := by
  have hlist := String.ofList_injective same
  simp only [List.append_cancel_left_eq, List.cons.injEq, true_and] at hlist
  exact hlist

/-- **What diagnostics show of a password.**  The client takes it from either place, whatever it is.
Among the credentials it is masked just if it has no mark; with one, all of the locator is masked
just if what is in front of the mark is no port.  Among the settings it is shown. -/
theorem passwords_masked (account : Account) (settings : Settings) :
    (∀ password, IsPassword password →
      Postgres.Target.ofText? (account.inCredentials password) =
        some (account.target (Url.unescape password)) ∧
      (redacted (account.inCredentials password) = account.inCredentials "***".toList ↔
        IsUnmarked password) ∧
      (redacted (account.inCredentials password) = "***" ↔
        ¬ IsUnmarked password ∧ leadingPort? password = none)) ∧
    (∀ first second, IsPassword first → IsPassword second →
      IsUnmarked first → IsUnmarked second →
        redacted (account.inCredentials first) = redacted (account.inCredentials second) ∧
        { settings with url := account.inCredentials first }.describe =
          { settings with url := account.inCredentials second }.describe) ∧
    ∀ first second, first ≠ [] → second ≠ [] → IsPlain first → IsPlain second →
      Postgres.Target.ofText? (account.inSettings first) =
        some (account.target (Text.utf8 (String.ofList first))) ∧
      (redacted (account.inSettings first) = redacted (account.inSettings second) ↔
        first = second) ∧
      ({ settings with url := account.inSettings first }.describe =
          { settings with url := account.inSettings second }.describe ↔ first = second) := by
  refine ⟨fun password h => ⟨account.ofText?_inCredentials h.not_mem, ?_, ?_⟩, ?_, ?_⟩
  · refine ⟨fun masked => ?_, redacted_of_unmarked account h⟩
    by_contra marked
    exact (redacted_of_marked account h marked).1 masked
  · by_cases hmarks : IsUnmarked password
    · rw [redacted_of_unmarked account h hmarks]
      exact ⟨fun heq => absurd heq (ofList_postgres_ne _), fun hmarked => absurd hmarks hmarked.1⟩
    · rw [(redacted_of_marked account h hmarks).2]
      exact ⟨fun hport => ⟨hmarks, hport⟩, And.right⟩
  · intro first second hfirst hsecond unmarked unmarked'
    have hsame : redacted (account.inCredentials first) =
        redacted (account.inCredentials second) := by
      rw [redacted_of_unmarked account hfirst unmarked,
        redacted_of_unmarked account hsecond unmarked']
    exact ⟨hsame, (describe_eq_iff settings _ _).2 (congrArg Text.quote hsame)⟩
  · intro first second filled filled' plain plain'
    have hinjective : account.inSettings first = account.inSettings second ↔ first = second :=
      ⟨inSettings_injective account, congrArg account.inSettings⟩
    have hquote : Text.quote (account.inSettings first) = Text.quote (account.inSettings second) ↔
        first = second := by
      rw [quote_inSettings account plain, quote_inSettings account plain', String.ofList_inj,
        List.append_left_inj, List.cons_inj_right, String.toList_inj, hinjective]
    refine ⟨account.ofText?_inSettings plain, ?_, ?_⟩
    · rw [redacted_inSettings account filled plain, redacted_inSettings account filled' plain',
        hinjective]
    · rw [describe_eq_iff, redacted_inSettings account filled plain,
        redacted_inSettings account filled' plain', hquote]

/-- The user `app` of the database `shop` on the host `db`. -/
def shopAccount : Account where
  user := "app".toList
  host := "db".toList
  database := "shop".toList
  isUser := ⟨⟨'a', rfl, rfl⟩, by decide⟩
  isHost := ⟨⟨'d', rfl, rfl⟩, by decide⟩
  isDatabase := ⟨⟨'s', rfl, rfl⟩, by decide⟩

/-- A colon and a blank are no marks, and a slash is one; what is in front of it here is no port. -/
theorem passwords_masked_shop :
    (IsPassword "a: %".toList ∧ IsUnmarked "a: %".toList ∧
      IsPassword "hunter2".toList ∧ IsUnmarked "hunter2".toList ∧
      redacted "postgres://app:a: %@db/shop" = redacted "postgres://app:hunter2@db/shop") ∧
    (IsPassword "a/b".toList ∧ redacted "postgres://app:a/b@db/shop" = "***") ∧
    ("x".toList ≠ [] ∧ "y".toList ≠ [] ∧ IsPlain "x".toList ∧ IsPlain "y".toList ∧
      redacted "postgres://app@db/shop?password=x" ≠
        redacted "postgres://app@db/shop?password=y") := by
  obtain ⟨hplaces, hsame, hsettings⟩ := passwords_masked shopAccount (.ofUrl "")
  have hcolon : IsPassword "a: %".toList := ⟨by decide, Text.forall_mem_of_all (by decide)⟩
  have hhunter : IsPassword "hunter2".toList := ⟨by decide, Text.forall_mem_of_all (by decide)⟩
  have hslash : IsPassword "a/b".toList := ⟨by decide, Text.forall_mem_of_all (by decide)⟩
  refine ⟨⟨hcolon, by decide, hhunter, by decide, ?_⟩, ⟨hslash, ?_⟩,
    by decide, by decide, by decide, by decide, ?_⟩
  · exact (hsame "a: %".toList "hunter2".toList hcolon hhunter (by decide) (by decide)).1
  · exact (hplaces "a/b".toList hslash).2.2.2 ⟨by decide, by decide +kernel⟩
  · intro heq
    exact absurd ((hsettings "x".toList "y".toList (by decide) (by decide) (by decide)
      (by decide)).2.1.1 heq) (by decide)

/-- A password that is a digit, a slash and a letter is shown, and so is one among the settings. -/
theorem passwords_shown :
    (¬ ∀ (account : Account) (first second : List Char), first ≠ [] → second ≠ [] →
      (∀ c ∈ first ++ second, c ≠ '@' ∧ '!' ≤ c ∧ c ≤ '~') →
        redacted (account.inCredentials first) = redacted (account.inCredentials second)) ∧
    ¬ ∀ (account : Account) (first second : List Char), first ≠ [] → second ≠ [] →
      IsPlain first → IsPlain second →
        redacted (account.inSettings first) = redacted (account.inSettings second) := by
  constructor
  · intro hidden
    have hsame := hidden shopAccount "1/x".toList "x".toList (by decide) (by decide)
      (Text.forall_mem_of_all (by decide))
    have hshown : redacted (shopAccount.inCredentials "1/x".toList) ≠
        redacted (shopAccount.inCredentials "x".toList) := by decide +kernel
    exact hshown hsame
  · intro hidden
    have hsame := hidden shopAccount "x".toList "y".toList (by decide) (by decide) (by decide)
      (by decide)
    rw [redacted_inSettings shopAccount (by decide) (by decide),
      redacted_inSettings shopAccount (by decide) (by decide)] at hsame
    exact absurd (inSettings_injective shopAccount hsame) (by decide)

end QueryFeed.Database
