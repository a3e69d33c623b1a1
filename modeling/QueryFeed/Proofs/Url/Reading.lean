import Mathlib.Data.Option.Basic
import QueryFeed.Proofs.Text.Plain
import QueryFeed.Url.Basic

/-!
**How locators of a database are read.**

The scheme of a database has no authority by rule.  So a locator of it is cut at the first mark of a
fragment, then at the first mark of a query, and what is left at the first slash; only then is the
authority cut, at its last `@`.  Names stand for themselves in all of these parts.

Main results:

* `Url.ofText?_postgres` — **reading is cutting at the marks, and then reading the location**;
* `Url.ofText?_append` — **the authority ends at the first mark**, whichever it is;
* `Url.authorityOf?_credentials`, `Url.authorityOf?_host` — authorities with and without credentials;
* `Url.ofText?_credentials` — locators with credentials, a host and a database.
-/

set_option autoImplicit false

namespace QueryFeed.Url

open Text (IsName IsPlain)

/-! ### Escaping -/

theorem escape_eq_self {escaped : EscapeSet} {text : List Char}
    (each : ∀ c ∈ text, isEscaped escaped c = false) : escape escaped text = text := by
  induction text with
  | nil => rfl
  | cons c rest ih =>
      obtain ⟨hfirst, hrest⟩ := List.forall_mem_cons.1 each
      rw [escape, List.flatMap_cons, escapeChar, hfirst]
      exact congrArg (c :: ·) (ih hrest)

/-- Letters and digits are not escaped, unless they are listed. -/
theorem isEscaped_of_alphanum {escaped : EscapeSet} (special : escaped.all (!·.isAlphanum) = true)
    {c : Char} (h : c.isAlphanum = true) : isEscaped escaped c = false := by
  have hcode : 0x20 ≤ c.toNat ∧ c.toNat ≤ 0x7e :=
    Text.forall_alphanum (P := fun c => 0x20 ≤ c.toNat ∧ c.toNat ≤ 0x7e) (by decide +kernel) h
  have hlisted : c ∉ escaped := Text.not_mem_of_alphanum special h
  simp only [isEscaped, List.contains_eq_mem, hlisted, decide_false, Bool.or_false,
    decide_eq_false_iff_not]
  omega

/-- **A plain text is not escaped.** -/
theorem escape_of_plain {escaped : EscapeSet} (special : escaped.all (!·.isAlphanum) = true)
    {text : List Char} (plain : IsPlain text) : escape escaped text = text :=
  escape_eq_self fun c hmem => isEscaped_of_alphanum special (plain c hmem)

/-- Escaping loses no character. -/
theorem escape_ne_nil (escaped : EscapeSet) {text : List Char} (h : text ≠ []) :
    escape escaped text ≠ [] := by
  obtain ⟨c, rest, rfl⟩ := List.exists_cons_of_ne_nil h
  rw [escape, List.flatMap_cons]
  refine List.append_ne_nil_of_left_ne_nil ?_ _
  unfold escapeChar
  split
  · obtain ⟨byte, bytes, hbytes⟩ := List.exists_cons_of_ne_nil (Text.utf8_singleton_ne_nil c)
    rw [hbytes, List.flatMap_cons]
    exact List.cons_ne_nil _ _
  · exact List.cons_ne_nil _ _

/-- A text without percent signs stands for its bytes. -/
theorem unescape_of_not_mem {text : List Char} (h : '%' ∉ text) :
    unescape text = Text.utf8 (String.ofList text) := by
  induction text with
  | nil => exact Text.utf8_empty.symm
  | cons c rest ih =>
      rw [List.mem_cons, not_or] at h
      have hstep : unescape (c :: rest) = Text.utf8 (String.singleton c) ++ unescape rest := by
        rw [unescape]
        rintro _ _ _ rfl
        exact absurd rfl h.1
      rw [Text.utf8_ofList_cons, hstep, ih h.2]

/-! ### Marks -/

theorem cutAt?_of_not_mem {mark : Char} {text : List Char} (h : mark ∉ text) :
    cutAt? [mark] text = none := by
  induction text with
  | nil => rfl
  | cons c rest ih =>
      rw [List.mem_cons, not_or] at h
      have hfirst : [mark].isPrefixOf (c :: rest) = false := by simp [List.isPrefixOf, h.1]
      rw [cutAt?, hfirst, ih h.2]
      rfl

theorem cutAt?_append {mark : Char} {before : List Char} (h : mark ∉ before)
    (after : List Char) : cutAt? [mark] (before ++ mark :: after) = some (before, after) := by
  induction before with
  | nil => simp [cutAt?]
  | cons c rest ih =>
      rw [List.mem_cons, not_or] at h
      have hfirst : [mark].isPrefixOf (c :: (rest ++ mark :: after)) = false := by
        simp [List.isPrefixOf, h.1]
      rw [List.cons_append, cutAt?, hfirst, ih h.2]
      rfl

theorem splitAt_of_not_mem {separator : Char} {text : List Char} (h : separator ∉ text) :
    splitAt separator text = [text] := by
  induction text with
  | nil => rfl
  | cons c rest ih =>
      rw [List.mem_cons, not_or] at h
      rw [splitAt, ih h.2]
      simp only [Ne.symm h.1, if_false]

@[simp] theorem cutAtMark_nil (mark : Char) : cutAtMark mark [] = ([], none) := rfl

@[simp] theorem cutAtMark_mark (mark : Char) (after : List Char) :
    cutAtMark mark (mark :: after) = ([], some after) := by
  simp [cutAtMark]

/-- The cut is behind a text without the mark. -/
theorem cutAtMark_append {mark : Char} {before : List Char} (h : mark ∉ before)
    (rest : List Char) : cutAtMark mark (before ++ rest) =
      (before ++ (cutAtMark mark rest).1, (cutAtMark mark rest).2) := by
  simp only [cutAtMark, List.takeWhile_append_of_pos (Text.ne_of_not_mem h), List.length_append,
    ← List.drop_drop, List.drop_left]

theorem cutAtMark_of_not_mem {mark : Char} {text : List Char} (h : mark ∉ text) :
    cutAtMark mark text = (text, none) := by
  have hcut := cutAtMark_append h []
  rwa [cutAtMark_nil, List.append_nil] at hcut

/-- What is in front of the cut begins as the text does. -/
theorem head?_cutAtMark {mark c : Char} {text : List Char}
    (h : c ∈ (cutAtMark mark text).1.head?) : c ∈ text.head? := by
  cases text with
  | nil => exact h
  | cons first rest =>
      by_cases hmark : first = mark
      · subst hmark
        rw [cutAtMark_mark] at h
        cases h
      · have hfirst : mark ∉ [first] := fun hmem => hmark (List.mem_singleton.1 hmem).symm
        rw [← List.singleton_append, cutAtMark_append hfirst] at h
        exact h

/-! ### Locators of a database -/

/-- A text without padding at its ends and without tabs and line breaks is clean. -/
theorem cleaned_eq_self {text : List Char} (first : ∀ c ∈ text.head?, isPadding c = false)
    (last : ∀ c ∈ text.getLast?, isPadding c = false)
    (unbroken : ∀ c ∈ text, c ∉ ['\t', '\n', '\r']) : cleaned text = text := by
  have hdrop : ∀ {text : List Char}, (∀ c ∈ text.head?, isPadding c = false) →
      text.dropWhile isPadding = text := by
    intro text hfirst
    cases text with
    | nil => rfl
    | cons c rest => rw [List.dropWhile_cons_of_neg (by simp [hfirst c rfl])]
  have hend : text.reverse.dropWhile isPadding = text.reverse :=
    hdrop fun c hmem => last c (List.head?_reverse ▸ hmem)
  rw [cleaned, hdrop first, hend, List.reverse_reverse, List.filter_eq_self]
  intro c hmem
  have hbreak := unbroken c hmem
  simp only [List.mem_cons, List.not_mem_nil, or_false, not_or] at hbreak
  simp [hbreak]

/-- The scheme of a database. -/
def postgres : List Char := "postgres".toList

/-- A locator that ends with a plain text is clean. -/
theorem cleaned_postgres {before last : List Char} (plain : IsPlain last) (filled : last ≠ [])
    (unbroken : ∀ c ∈ before, c ∉ ['\t', '\n', '\r']) :
    cleaned (postgres ++ ':' :: '/' :: '/' :: (before ++ last)) =
      postgres ++ ':' :: '/' :: '/' :: (before ++ last) := by
  have hassoc : postgres ++ ':' :: '/' :: '/' :: (before ++ last) =
      (postgres ++ [':', '/', '/']) ++ (before ++ last) := by simp
  refine cleaned_eq_self (fun c hmem => ?_) (fun c hmem => ?_) fun c hmem => ?_
  · cases hmem
    rfl
  · rw [hassoc, ← List.append_assoc, List.getLast?_append,
      List.getLast?_eq_some_getLast filled, Option.some_or] at hmem
    cases hmem
    exact Text.forall_alphanum (P := fun c => isPadding c = false) (by decide +kernel)
      (plain _ (List.getLast_mem filled))
  · have hscheme : ∀ c ∈ postgres ++ [':', '/', '/'], c ∉ ['\t', '\n', '\r'] :=
      Text.forall_mem_of_all (by decide)
    rw [hassoc] at hmem
    rcases List.mem_append.1 hmem with hmem | hmem
    · exact hscheme c hmem
    rcases List.mem_append.1 hmem with hmem | hmem
    · exact unbroken c hmem
    · exact plain.avoids (by decide) c hmem

@[simp] theorem isSpecialScheme_postgres : isSpecialScheme postgres = false := by decide

theorem hierarchyOf?_postgres (rest : List Char) (followed : Bool) :
    hierarchyOf? postgres ('/' :: '/' :: rest) followed =
      (locationOf? postgres rest followed).map fun location => (some location.1, location.2) := by
  have hfile : isFileScheme postgres = false := by decide
  simp only [hierarchyOf?, hfile, isSpecialScheme_postgres]
  rfl

/-- **Reading is cutting at the marks**, and then reading the location. -/
theorem ofText?_postgres {body : List Char}
    (clean : cleaned (postgres ++ ':' :: '/' :: '/' :: body) =
      postgres ++ ':' :: '/' :: '/' :: body) :
    ofText? (String.ofList (postgres ++ ':' :: '/' :: '/' :: body)) =
      (locationOf? postgres (cutAtMark '?' (cutAtMark '#' body).1).1
        ((cutAtMark '?' (cutAtMark '#' body).1).2.isSome || (cutAtMark '#' body).2.isSome)).map
        fun location => ⟨postgres, some location.1, location.2,
          (cutAtMark '?' (cutAtMark '#' body).1).2.map (escape querySet),
          (cutAtMark '#' body).2.map (escape fragmentSet)⟩ := by
  have hscheme : schemeOf? (postgres ++ ':' :: '/' :: '/' :: body) =
      some (postgres, '/' :: '/' :: body) := rfl
  have hfragment := cutAtMark_append (show '#' ∉ ['/', '/'] by decide) body
  have hquery := cutAtMark_append (show '?' ∉ ['/', '/'] by decide) (cutAtMark '#' body).1
  simp only [List.cons_append, List.nil_append] at hfragment hquery
  rw [ofText?, String.toList_ofList, clean, hscheme]
  simp only [Option.bind_eq_bind, Option.bind_some, hfragment, hquery, hierarchyOf?_postgres,
    isSpecialScheme_postgres]
  cases locationOf? postgres (cutAtMark '?' (cutAtMark '#' body).1).1
    ((cutAtMark '?' (cutAtMark '#' body).1).2.isSome || (cutAtMark '#' body).2.isSome) <;> rfl

/-! ### Locations -/

theorem endsAuthority_eq_false_iff {c : Char} :
    endsAuthority false c = false ↔ c ∉ ['/', '?', '#'] := by
  simp [endsAuthority, and_assoc]

/-- A plain text lies within the authority. -/
theorem endsAuthority_of_plain {text : List Char} (plain : IsPlain text) :
    ∀ c ∈ text, endsAuthority false c = false :=
  fun c hmem => endsAuthority_eq_false_iff.2 (plain.avoids (by decide) c hmem)

/-- The location is cut where its authority ends. -/
theorem locationOf?_append {authority path : List Char}
    (inside : ∀ c ∈ authority, endsAuthority false c = false)
    (ends : ∀ c ∈ path.head?, endsAuthority false c = true) (followed : Bool) :
    locationOf? postgres (authority ++ path) followed =
      (authorityOf? postgres authority (followed || !path.isEmpty)).map fun read =>
        (read.1, pathAfterAuthority postgres (read.2 ++ path)) := by
  have hcut : (authority ++ path).takeWhile (fun c => !endsAuthority false c) = authority :=
    Text.takeWhile_append (fun c hmem => by simp [inside c hmem]) fun c hmem => by
      simp [ends c hmem]
  simp only [locationOf?, isSpecialScheme_postgres, hcut, List.drop_left, Option.bind_eq_bind]
  cases authorityOf? postgres authority (followed || !path.isEmpty) <;> rfl

/-- **The authority ends at the first mark**, whichever it is. -/
theorem ofText?_append {authority rest : List Char}
    (clean : cleaned (postgres ++ ':' :: '/' :: '/' :: (authority ++ rest)) =
      postgres ++ ':' :: '/' :: '/' :: (authority ++ rest))
    (inside : ∀ c ∈ authority, endsAuthority false c = false)
    (ends : ∀ c ∈ rest.head?, endsAuthority false c = true) :
    ∃ followed path query fragment,
      ofText? (String.ofList (postgres ++ ':' :: '/' :: '/' :: (authority ++ rest))) =
        (authorityOf? postgres authority followed).map fun read =>
          ⟨postgres, some read.1, pathAfterAuthority postgres (read.2 ++ path), query, fragment⟩ := by
  have hmark : ∀ mark, endsAuthority false mark = true → mark ∉ authority := by
    intro mark hends hmem
    rw [inside mark hmem] at hends
    cases hends
  have hends : ∀ c ∈ (cutAtMark '?' (cutAtMark '#' rest).1).1.head?, endsAuthority false c = true :=
    fun c hmem => ends c (head?_cutAtMark (head?_cutAtMark hmem))
  rw [ofText?_postgres clean, cutAtMark_append (hmark '#' rfl), cutAtMark_append (hmark '?' rfl),
    locationOf?_append inside hends, Option.map_map]
  exact ⟨_, _, _, _, rfl⟩

/-- What follows the last `@` is cut off. -/
theorem cutAtLastAt?_append {after : List Char} (h : '@' ∉ after) (before : List Char) :
    cutAtLastAt? (before ++ '@' :: after) = some (before, after) := by
  have hreverse : '@' ∉ after.reverse := fun hmem => h (List.mem_reverse.1 hmem)
  have hall : (before ++ '@' :: after).reverse.takeWhile (· != '@') = after.reverse := by
    rw [List.reverse_append, List.reverse_cons, List.append_assoc]
    exact Text.takeWhile_append (Text.ne_of_not_mem hreverse) Text.head?_cons_mark
  simp only [cutAtLastAt?, hall, List.reverse_reverse, List.length_append, List.length_cons]
  rw [if_pos (by omega)]
  have hlength : before.length + (after.length + 1) - after.length - 1 = before.length := by omega
  rw [hlength, List.take_left]

theorem cutAtLastAt?_of_not_mem {text : List Char} (h : '@' ∉ text) :
    cutAtLastAt? text = none := by
  have hreverse : '@' ∉ text.reverse := fun hmem => h (List.mem_reverse.1 hmem)
  have hall := Text.takeWhile_eq_self (Text.ne_of_not_mem hreverse)
  simp only [cutAtLastAt?, hall, List.reverse_reverse, Nat.lt_irrefl, if_false]

/-- The user is cut off at the first colon. -/
theorem credentials_append {user : List Char} (h : ':' ∉ user) (password : List Char) :
    credentials (user ++ ':' :: password) = (escape userSet user, escape userSet password) := by
  have hall : (user ++ ':' :: password).takeWhile (· != ':') = user :=
    Text.takeWhile_append (Text.ne_of_not_mem h) Text.head?_cons_mark
  have hdrop : (user ++ ':' :: password).drop (user.length + 1) = password := by
    rw [← List.drop_drop, List.drop_left]
    rfl
  simp only [credentials, hall, hdrop]

theorem credentials_of_not_mem {user : List Char} (h : ':' ∉ user) :
    credentials user = (escape userSet user, []) := by
  have hall := Text.takeWhile_eq_self (Text.ne_of_not_mem h)
  rw [credentials, hall, List.drop_eq_nil_of_le (Nat.le_succ _)]
  rfl

/-- A host is cut off at the first colon. -/
theorem hostPart_append {host port : List Char} (plain : IsPlain host)
    (colon : ∀ c ∈ port.head?, c = ':') : hostPart false (host ++ port) = host := by
  induction host with
  | nil =>
      cases port with
      | nil => rfl
      | cons c rest =>
          obtain rfl := colon c rfl
          rfl
  | cons c rest ih =>
      obtain ⟨hc, hrest⟩ := List.forall_mem_cons.1 plain
      have hcolon : c ≠ ':' := Text.ne_of_alphanum hc (by decide)
      have hopen : c ≠ '[' := Text.ne_of_alphanum hc (by decide)
      have hclose : c ≠ ']' := Text.ne_of_alphanum hc (by decide)
      simp only [List.cons_append, hostPart, hcolon, hopen, hclose, decide_false, Bool.false_and,
        Bool.false_eq_true, if_false, ih hrest]

/-- A name is a host. -/
theorem hostOfText?_of_name {host : List Char} (h : IsName host) :
    hostOfText? false host = some (.name host) := by
  obtain ⟨c, rest, rfl⟩ := List.exists_cons_of_ne_nil h.ne_nil
  have hopen : c ≠ '[' := Text.ne_of_alphanum (h.plain c List.mem_cons_self) (by decide)
  have hallowed : (c :: rest).any forbiddenInHost.contains = false := by
    rw [List.any_eq_false]
    intro x hmem hforbidden
    exact Text.not_mem_of_alphanum (by decide) (h.plain x hmem)
      (List.contains_iff_mem.1 hforbidden)
  have hescape : escape controls (c :: rest) = c :: rest := escape_of_plain (by decide) h.plain
  unfold hostOfText?
  split
  · rename_i heq
    exact absurd (List.cons.inj heq).1 hopen
  · simp only [hallowed, hescape, Bool.false_eq_true, if_false]

/-- An authority with credentials. -/
theorem authorityOf?_credentials {host : List Char} (name : IsName host) (before : List Char)
    (followed : Bool) :
    authorityOf? postgres (before ++ '@' :: host) followed =
      some (⟨(credentials before).1, (credentials before).2, .name host, none⟩, []) := by
  have hhost : hostPart false (host ++ []) = host :=
    hostPart_append name.plain fun _ hmem => by cases hmem
  rw [List.append_nil] at hhost
  have hfilled : host.isEmpty = false := by
    rw [List.isEmpty_eq_false_iff]
    exact name.ne_nil
  simp only [authorityOf?, cutAtLastAt?_append (name.plain.not_mem (c := '@') (by decide)),
    Option.getD_some, isSpecialScheme_postgres, hhost, List.drop_length, hfilled, Bool.false_and,
    Bool.not_false, hostOfText?_of_name name, List.drop_nil, List.takeWhile_nil]
  rfl

/-- An authority without credentials: what follows the first colon is read as a port. -/
theorem authorityOf?_host {host port : List Char} (name : IsName host) (h : '@' ∉ port)
    (followed : Bool) :
    authorityOf? postgres (host ++ ':' :: port) followed =
      (port? postgres (port.takeWhile (· != '\\'))).map fun number =>
        (⟨[], [], .name host, number⟩, port.drop (port.takeWhile (· != '\\')).length) := by
  have hhost : hostPart false (host ++ ':' :: port) = host :=
    hostPart_append name.plain fun c hmem => (Option.some.inj hmem).symm
  have hfilled : host.isEmpty = false := by
    rw [List.isEmpty_eq_false_iff]
    exact name.ne_nil
  have hat : '@' ∉ host ++ ':' :: port := by
    rw [List.mem_append, List.mem_cons]
    rintro (hmem | hcolon | hmem)
    · exact name.plain.not_mem (by decide) hmem
    · exact absurd hcolon (by decide)
    · exact h hmem
  have hcredentials : credentials [] = ([], []) := rfl
  simp only [authorityOf?, cutAtLastAt?_of_not_mem hat, Option.getD_none, hcredentials,
    isSpecialScheme_postgres, hhost, List.drop_left, hfilled, Bool.false_and, Bool.not_false,
    hostOfText?_of_name name, List.drop_succ_cons, List.drop_zero]
  cases port? postgres (port.takeWhile (· != '\\')) <;> rfl

/-! ### Paths -/

/-- The path after an authority has segments. -/
theorem exists_segments (text : List Char) :
    ∃ segments, pathAfterAuthority postgres text = .segments segments := by
  cases text with
  | nil => exact ⟨_, rfl⟩
  | cons c rest => exact ⟨_, rfl⟩

/-- A name is no segment of points. -/
theorem not_dots_of_name {path : List Char} (h : IsName path) :
    isSingleDot path = false ∧ isDoubleDot path = false := by
  obtain ⟨c, rest, rfl⟩ := List.exists_cons_of_ne_nil h.ne_nil
  have hlower : c.toLower ≠ '.' ∧ c.toLower ≠ '%' :=
    Text.forall_alphanum (P := fun c => c.toLower ≠ '.' ∧ c.toLower ≠ '%') (by decide +kernel)
      (h.plain c List.mem_cons_self)
  have hc : c ≠ '.' := Text.ne_of_alphanum (h.plain c List.mem_cons_self) (by decide)
  simp [isSingleDot, isDoubleDot, hlower, hc]

/-- A name is a path of one segment. -/
theorem pathAfterAuthority_of_name {path : List Char} (h : IsName path) :
    pathAfterAuthority postgres ('/' :: path) = .segments [path] := by
  have hescape : escape pathSet path = path := escape_of_plain (by decide) h.plain
  have hsegments : segmentsOf false path = [path] := by
    simp only [segmentsOf, Bool.false_eq_true, if_false,
      splitAt_of_not_mem (h.plain.not_mem (c := '/') (by decide)), List.map_cons, List.map_nil,
      hescape]
  simp only [pathAfterAuthority, isSpecialScheme_postgres, decide_true, Bool.true_or, if_true,
    pathOf, hsegments, resolveDots, (not_dots_of_name h).1, (not_dots_of_name h).2]
  rfl

/-! ### Credentials, a host and a database -/

/-- **A locator with credentials, a host, a database and perhaps a query.** -/
theorem ofText?_credentials {before host database query : List Char}
    (clean : cleaned (postgres ++ ':' :: '/' :: '/' ::
        (before ++ '@' :: host ++ '/' :: database ++ query)) =
      postgres ++ ':' :: '/' :: '/' :: (before ++ '@' :: host ++ '/' :: database ++ query))
    (inside : ∀ c ∈ before, endsAuthority false c = false) (hhost : IsName host)
    (hdatabase : IsName database) (mark : ∀ c ∈ query.head?, c = '?') (whole : '#' ∉ query) :
    ofText? (String.ofList (postgres ++ ':' :: '/' :: '/' ::
        (before ++ '@' :: host ++ '/' :: database ++ query))) = some
      ⟨postgres, some ⟨(credentials before).1, (credentials before).2, .name host, none⟩,
        .segments [database], (cutAtMark '?' query).2.map (escape querySet), none⟩ := by
  have hinside : ∀ c ∈ before ++ '@' :: host, endsAuthority false c = false := by
    simp only [List.forall_mem_append, List.forall_mem_cons]
    exact ⟨inside, rfl, endsAuthority_of_plain hhost.plain⟩
  have hmark : ∀ mark ∈ ['?', '#'], mark ∉ before ++ '@' :: host ++ '/' :: database := by
    have hends : ∀ mark ∈ ['?', '#'],
        endsAuthority false mark = true ∧ mark.isAlphanum = false ∧ mark ≠ '/' :=
      Text.forall_mem_of_all (by decide)
    intro mark hmark hmem
    rcases List.mem_append.1 hmem with hmem | hmem
    · exact Bool.false_ne_true ((hinside mark hmem).symm.trans (hends mark hmark).1)
    rcases List.mem_cons.1 hmem with hslash | hmem
    · exact (hends mark hmark).2.2 hslash
    · exact hdatabase.plain.not_mem (hends mark hmark).2.1 hmem
  have hfragment : '#' ∉ before ++ '@' :: host ++ '/' :: database ++ query := fun hmem =>
    (List.mem_append.1 hmem).elim (hmark '#' (by decide)) whole
  have hquery : (cutAtMark '?' query).1 = [] := by
    cases query with
    | nil => rfl
    | cons c rest =>
        obtain rfl := mark c rfl
        rw [cutAtMark_mark]
  have hslash : ∀ c ∈ ('/' :: database).head?, endsAuthority false c = true := by
    rintro c ⟨⟩
    rfl
  rw [ofText?_postgres clean, cutAtMark_of_not_mem hfragment]
  simp only [cutAtMark_append (hmark '?' (by decide)), hquery, List.append_nil,
    locationOf?_append hinside hslash, authorityOf?_credentials hhost, Option.map_some,
    List.nil_append, pathAfterAuthority_of_name hdatabase, Option.map_none]

end QueryFeed.Url
