import Mathlib.Data.Bool.AllAny
import Mathlib.Data.List.TakeWhile
import WebScript.Proofs.Text.Find
import WebScript.Url.Split

namespace WebScript.Url

variable {c : Char} {scheme authority path action rest tail dir last : List Char}
  {keep : Char → Bool}

/-- Tabulators and line breaks are not read as parts of an address. -/
def isBreak (c : Char) : Bool :=
  c == '\t' || c == '\r' || c == '\n'

structure Address where
  scheme : List Char
  authority : List Char
  path : List Char
  query : Option (List Char)
  fragment : Option (List Char)
  web : scheme.map Text.lowerAscii ∈ ["http".toList, "https".toList]
  host : ∀ c ∈ authority, c.toNat < 128 ∧ c ∉ ['[', ']', '/', '?', '#']
  rooted : path = [] ∨ path.head? = some '/'
  plain : ∀ c ∈ path, c ≠ '?' ∧ c ≠ '#'
  unbroken : ∀ c ∈ authority ++ path, isBreak c = false

namespace Address

/-- The query and the fragment as they are written. -/
def extras (a : Address) : List Char :=
  (a.query.map ('?' :: ·)).getD [] ++ (a.fragment.map ('#' :: ·)).getD []

def text (a : Address) : List Char :=
  a.scheme ++ ':' :: '/' :: '/' :: (a.authority ++ (a.path ++ a.extras))

/-- The scheme in small letters with the authority. -/
def origin (a : Address) : List Char :=
  a.scheme.map Text.lowerAscii ++ ':' :: '/' :: '/' :: a.authority

end Address

/-- Where an action leads on a page of a path: a rooted one takes the place of the path, another
that of its last part. -/
inductive Leads : (path action : List Char) → List Char → Prop
  | rooted {path rest : List Char} : Leads path ('/' :: rest) ('/' :: rest)
  | beside {dir last action : List Char} (inDir : '/' ∉ last) (relative : action.head? ≠ some '/') :
      Leads (dir ++ '/' :: last) action (dir ++ '/' :: action)
  | top {action : List Char} (relative : action.head? ≠ some '/') : Leads [] action ('/' :: action)

section Split

theorem isAlpha_of_lowerAscii (h : (Text.lowerAscii c).isAlpha) : c.isAlpha := by
  rw [Text.lowerAscii] at h
  split at h
  · next capital =>
    have upper : c.isUpper := decide_eq_true capital
    exact Bool.or_eq_true_iff.2 (.inl upper)
  · exact h

theorem isSchemeChar_of_isAlpha (h : c.isAlpha) : isSchemeChar c = true := by
  simp [isSchemeChar, Char.isAlphanum, h]

/-- A letter is a visible character. -/
theorem toNat_of_isAlpha (h : c.isAlpha) : 0x20 < c.toNat := by
  have cased : c.isUpper ∨ c.isLower := Bool.or_eq_true_iff.1 h
  rcases cased with upper | lower
  · exact Nat.lt_of_lt_of_le (by decide) (UInt32.le_iff_toNat_le.1 (of_decide_eq_true upper).1)
  · exact Nat.lt_of_lt_of_le (by decide)
      (UInt32.le_iff_toNat_le.1 (of_decide_eq_true (Bool.and_eq_true_iff.1 lower).1))

theorem isBreak_of_lt (h : 0x20 < c.toNat) : isBreak c = false := by
  have not (d : Char) (low : d.toNat ≤ 0x20) : c ≠ d := by
    rintro rfl
    omega
  simp [isBreak, not '\t' (by decide), not '\r' (by decide), not '\n' (by decide)]

theorem takeWhile_until (all : ∀ c ∈ path, keep c = true)
    (stop : ∀ c ∈ rest.head?, keep c = false) :
    (path ++ rest).takeWhile keep = path := by
  rw [List.takeWhile_append_of_pos all]
  cases rest with
  | nil => simp
  | cons c rest => simp [stop c rfl]

theorem dropWhile_until (all : ∀ c ∈ path, keep c = true)
    (stop : ∀ c ∈ rest.head?, keep c = false) :
    (path ++ rest).dropWhile keep = rest := by
  rw [List.dropWhile_append_of_pos all]
  cases rest with
  | nil => rfl
  | cons c rest => simp [stop c rfl]

theorem splitScheme_letters (letters : ∀ c ∈ scheme, c.isAlpha) (named : scheme ≠ []) :
    splitScheme (scheme ++ ':' :: rest) = (scheme.map Text.lowerAscii, rest) := by
  have noColon : ':' ∉ scheme := by
    intro mem
    exact absurd (letters _ mem) (by decide)
  obtain ⟨c, more, rfl⟩ := List.exists_cons_of_ne_nil named
  obtain ⟨first, others⟩ := List.forall_mem_cons.1 letters
  have all : more.all isSchemeChar = true :=
    List.all_eq_true.2 fun d hd => isSchemeChar_of_isAlpha (others d hd)
  rw [splitScheme, Text.cutAt?_append noColon]
  simp [first, all]

theorem checkBrackets_plain (plain : ∀ c ∈ authority, c ≠ '[' ∧ c ≠ ']') :
    checkBrackets authority = .ok () := by
  have opening : '[' ∉ authority := fun mem => (plain _ mem).1 rfl
  have closing : ']' ∉ authority := fun mem => (plain _ mem).2 rfl
  have uncut : Text.cutAt? ['['] authority = none := by
    rw [Text.cutAt?_eq_none, List.singleton_infix_iff]
    exact opening
  simp [checkBrackets, opening, closing, uncut]

theorem hidesDelimiter_ascii (h : c.toNat < 128) : hidesDelimiter c = false := by
  simp only [hidesDelimiter, List.contains_eq_mem, decide_eq_false_iff_not, List.mem_cons,
    List.not_mem_nil, or_false]
  omega

/-- What follows an authority does not go on with it. -/
def Leaves (rest : List Char) : Prop :=
  ∀ c ∈ rest.head?, isDelimiter c = true

/-- What is left out of an address does not change how its next part begins. -/
theorem Leaves.head?_filter (leaves : Leaves rest) :
    (rest.filter (!isBreak ·)).head? = rest.head? := by
  cases rest with
  | nil => rfl
  | cons c rest =>
    have delimiter := leaves c rfl
    have kept : isBreak c = false := by
      simp only [isDelimiter, Bool.or_eq_true, beq_iff_eq] at delimiter
      rcases delimiter with (rfl | rfl) | rfl <;> rfl
    rw [List.filter_cons_of_pos (by simp [kept])]
    rfl

/-- Of an address that begins with letters only what comes after the authority may be left out. -/
theorem filter_web (visible : ∀ c ∈ scheme, 0x20 < c.toNat)
    (unbroken : ∀ c ∈ authority, isBreak c = false) :
    (scheme ++ ':' :: '/' :: '/' :: (authority ++ rest)).filter (!isBreak ·) =
      scheme ++ ':' :: '/' :: '/' :: (authority ++ rest.filter (!isBreak ·)) := by
  have schemeKept : scheme.filter (!isBreak ·) = scheme :=
    List.filter_eq_self.2 fun c hc => by simp [isBreak_of_lt (visible c hc)]
  have authorityKept : authority.filter (!isBreak ·) = authority :=
    List.filter_eq_self.2 fun c hc => by simp [unbroken c hc]
  rw [List.filter_append, schemeKept, List.filter_cons_of_pos rfl, List.filter_cons_of_pos rfl,
    List.filter_cons_of_pos rfl, List.filter_append, authorityKept]

theorem split_web (letters : ∀ c ∈ scheme, c.isAlpha) (named : scheme ≠ [])
    (host : ∀ c ∈ authority, c.toNat < 128 ∧ c ∉ ['[', ']', '/', '?', '#'])
    (unbroken : ∀ c ∈ authority, isBreak c = false) (leaves : Leaves rest) :
    split (scheme ++ ':' :: '/' :: '/' :: (authority ++ rest)) = .ok
      ⟨scheme.map Text.lowerAscii, authority,
        ((rest.filter (!isBreak ·)).takeWhile (· != '#')).takeWhile (· != '?')⟩ := by
  have visible : ∀ c ∈ scheme, 0x20 < c.toNat := fun c hc => toNat_of_isAlpha (letters c hc)
  have start : (scheme ++ ':' :: '/' :: '/' :: (authority ++ rest)).dropWhile (·.toNat ≤ 0x20) =
      scheme ++ ':' :: '/' :: '/' :: (authority ++ rest) := by
    obtain ⟨c, more, rfl⟩ := List.exists_cons_of_ne_nil named
    rw [List.cons_append, List.dropWhile_cons_of_neg]
    simpa using visible c List.mem_cons_self
  have breaks : (fun c : Char => c != '\t' && c != '\r' && c != '\n') = fun c => !isBreak c := by
    funext c
    simp [isBreak, bne]
  have inside : ∀ c ∈ authority, (!isDelimiter c) = true := by
    intro c hc
    have := (host c hc).2
    simp_all [isDelimiter]
  have stop : ∀ c ∈ (rest.filter (!isBreak ·)).head?, (!isDelimiter c) = false := by
    intro c hc
    rw [leaves.head?_filter] at hc
    simp [leaves c hc]
  have plain : checkBrackets authority = .ok () := by
    apply checkBrackets_plain
    intro c hc
    have := (host c hc).2
    simp_all
  have open' : authority.any hidesDelimiter = false :=
    List.any_eq_false.2 fun c hc => by simp [hidesDelimiter_ascii (host c hc).1]
  rw [split]
  simp only [start, breaks, filter_web visible unbroken, splitScheme_letters letters named,
    takeWhile_until inside stop, dropWhile_until inside stop, plain, open']
  rfl

end Split

section Join

theorem throughLast_of_last (inDir : '/' ∉ last) :
    Text.throughLast '/' (dir ++ '/' :: last) = dir ++ ['/'] := by
  have all : ∀ c ∈ last.reverse, (c != '/') = true := by
    intro c hc
    rw [bne_iff_ne]
    rintro rfl
    exact inDir (List.mem_reverse.1 hc)
  rw [Text.throughLast, List.reverse_append, List.reverse_cons, List.append_assoc,
    List.dropWhile_append_of_pos all]
  simp

theorem Leads.leaves (leads : Leads path action tail) (rooted : path = [] ∨ path.head? = some '/') :
    Leaves tail := by
  have slash : tail.head? = some '/' := by
    cases leads with
    | rooted => rfl
    | top => rfl
    | @beside dir last =>
      cases dir with
      | nil => rfl
      | cons c dir => simpa using rooted
  intro c hc
  cases slash.symm.trans hc
  rfl

theorem exists_leads (rooted : path = [] ∨ path.head? = some '/') (action : List Char) :
    ∃ tail, Leads path action tail := by
  by_cases relative : action.head? = some '/'
  · cases action with
    | nil => cases relative
    | cons c action =>
      cases relative
      exact ⟨_, .rooted⟩
  · rcases rooted with rfl | slash
    · exact ⟨_, .top relative⟩
    · have mem : '/' ∈ path.reverse := List.mem_reverse.2 (List.mem_of_mem_head? slash)
      obtain ⟨last, dir, split, inDir⟩ := List.eq_append_cons_of_mem mem
      have whole : path = dir.reverse ++ '/' :: last.reverse := by
        rw [← List.reverse_reverse path, split]
        simp
      rw [whole]
      exact ⟨_, .beside (mt List.mem_reverse.1 inDir) relative⟩

/-- The base and the target of a form come together as its action leads on the page. -/
theorem Leads.eq (leads : Leads path action tail) :
    (if action.head? == some '/' then []
      else Text.throughLast '/' (if path.isEmpty then ['/'] else path)) ++ action =
      tail := by
  cases leads with
  | rooted => rfl
  | @beside dir last _ inDir relative =>
    have filled : (dir ++ '/' :: last).isEmpty = false := by simp
    rw [if_neg (by simpa using relative), filled, if_neg Bool.false_ne_true,
      throughLast_of_last inDir]
    simp
  | top relative =>
    rw [if_neg (by simpa using relative)]
    rfl

end Join

variable {a : Address}

namespace Address

theorem letters_origin (a : Address) : ∀ c ∈ a.scheme.map Text.lowerAscii, c.isAlpha := by
  have all : ∀ s ∈ ["http".toList, "https".toList], s.all Char.isAlpha := by decide
  exact List.all_eq_true.1 (all _ a.web)

theorem letters (a : Address) : ∀ c ∈ a.scheme, c.isAlpha := by
  intro c hc
  apply isAlpha_of_lowerAscii
  exact a.letters_origin _ (List.mem_map_of_mem hc)

theorem named (a : Address) : a.scheme ≠ [] := by
  intro empty
  have web := a.web
  rw [empty] at web
  exact absurd web (by decide)

theorem extras_start (a : Address) : ∀ c ∈ a.extras.head?, c = '?' ∨ c = '#' := by
  rw [extras]
  cases a.query <;> cases a.fragment <;> simp

theorem leaves_extras (a : Address) : Leaves a.extras := by
  intro c hc
  rcases a.extras_start c hc with rfl | rfl <;> rfl

theorem leaves (a : Address) : Leaves (a.path ++ a.extras) := by
  rcases a.rooted with empty | slash
  · rw [empty]
    exact a.leaves_extras
  · intro c hc
    rw [List.head?_append, slash] at hc
    cases hc
    rfl

theorem split_text (a : Address) :
    split a.text = .ok ⟨a.scheme.map Text.lowerAscii, a.authority, a.path⟩ := by
  obtain ⟨unbrokenHost, unbrokenPath⟩ := List.forall_mem_append.1 a.unbroken
  have pathKept : a.path.filter (!isBreak ·) = a.path :=
    List.filter_eq_self.2 fun c hc => by simp [unbrokenPath c hc]
  have inside : ∀ c ∈ a.path, decide ((c != '?') = true ∧ (c != '#') = true) = true := by
    intro c hc
    have := a.plain c hc
    simpa using this
  have stop : ∀ c ∈ (a.extras.filter (!isBreak ·)).head?,
      decide ((c != '?') = true ∧ (c != '#') = true) = false := by
    intro c hc
    rw [a.leaves_extras.head?_filter] at hc
    rcases a.extras_start c hc with rfl | rfl <;> rfl
  rw [text, split_web a.letters a.named a.host unbrokenHost a.leaves, List.filter_append, pathKept,
    List.takeWhile_takeWhile, takeWhile_until inside stop]

/-- The scheme is written in letters that are small already. -/
theorem lower_scheme (a : Address) :
    (a.scheme.map Text.lowerAscii).map Text.lowerAscii = a.scheme.map Text.lowerAscii := by
  have all : ∀ s ∈ ["http".toList, "https".toList], s.map Text.lowerAscii = s := by decide
  exact all _ a.web

theorem split_origin (a : Address) (leaves : Leaves tail) :
    ∃ path, split (a.origin ++ tail) = .ok ⟨a.scheme.map Text.lowerAscii, a.authority, path⟩ := by
  obtain ⟨unbroken, -⟩ := List.forall_mem_append.1 a.unbroken
  have named : a.scheme.map Text.lowerAscii ≠ [] := mt List.map_eq_nil_iff.1 a.named
  have whole := split_web a.letters_origin named a.host unbroken leaves
  rw [a.lower_scheme] at whole
  rw [origin, List.append_assoc]
  exact ⟨_, whole⟩

theorem formTarget_of_leads (a : Address) {action : String} (filled : action ≠ "")
    (relative : ∀ start ∈ ["http://", "https://"], ¬start.toList <+: (Text.lower action).toList)
    (leads : Leads a.path action.toList tail) :
    formTarget (.ofList a.text) action = .ok (.ofList (a.origin ++ tail)) := by
  have some : action.toList.isEmpty = false := by simpa using filled
  have starts : ∀ start ∈ ["http://", "https://"],
      startsWithFolded start action.toList = false := by
    intro start hs
    rw [startsWithFolded, String.ofList_toList, ← Bool.not_eq_true, String.startsWith_string_iff]
    exact relative start hs
  have http := starts _ List.mem_cons_self
  have https := starts _ (List.mem_cons_of_mem _ List.mem_cons_self)
  rw [formTarget]
  simp only [some, http, https, String.toList_ofList, split_text]
  have root : a.scheme.map Text.lowerAscii ++ [':', '/', '/'] ++ a.authority = a.origin := by
    simp [origin]
  change Except.ok (String.ofList
    (a.scheme.map Text.lowerAscii ++ [':', '/', '/'] ++ a.authority ++ _ ++ action.toList)) = _
  rw [root, List.append_assoc, leads.eq]

end Address

/-- A form whose action is no web address of its own is sent to the page's scheme and authority. -/
theorem formTarget_same_origin (a : Address) (action : String) (filled : action ≠ "")
    (relative : ∀ start ∈ ["http://", "https://"], ¬start.toList <+: (Text.lower action).toList) :
    ∃ tail, Leads a.path action.toList tail ∧
      formTarget (.ofList a.text) action = .ok (.ofList (a.origin ++ tail)) ∧
      (∃ path, split (a.origin ++ tail) = .ok ⟨a.scheme.map Text.lowerAscii, a.authority, path⟩) ∧
      ∀ b : Address, b.scheme = a.scheme → b.authority = a.authority → b.path = a.path →
        formTarget (.ofList b.text) action = formTarget (.ofList a.text) action := by
  obtain ⟨tail, leads⟩ := exists_leads a.rooted action.toList
  have target := a.formTarget_of_leads filled relative leads
  refine ⟨tail, leads, target, a.split_origin (leads.leaves a.rooted), ?_⟩
  intro b scheme authority path
  have origin : b.origin = a.origin := by rw [Address.origin, Address.origin, scheme, authority]
  rw [target, b.formTarget_of_leads filled relative (path ▸ leads), origin]

/-- A page of a shop, whose query holds an address of its own. -/
def checkout : Address where
  scheme := "HTTPS".toList
  authority := "shop.test:8080".toList
  path := "/cart/checkout".toList
  query := some "next=http://other.test/a".toList
  fragment := some "/x".toList
  web := by decide
  host := List.all_iff_forall_prop.1 (by decide)
  rooted := .inr rfl
  plain := List.all_iff_forall_prop.1 (by decide)
  unbroken := List.all_iff_forall_prop.1 (by decide)

/-- An action that begins like the authority of another site is a path of the same one. -/
theorem checkout_same_origin :
    (∀ start ∈ ["http://", "https://"], ¬start.toList <+: (Text.lower "//evil.test/pay").toList) ∧
    formTarget (.ofList checkout.text) "//evil.test/pay" =
      .ok "https://shop.test:8080//evil.test/pay" := by
  have relative : ∀ start ∈ ["http://", "https://"],
      ¬start.toList <+: (Text.lower "//evil.test/pay").toList := by
    decide
  obtain ⟨tail, leads, target, -⟩ :=
    formTarget_same_origin checkout "//evil.test/pay" (by decide) relative
  have slashes : "//evil.test/pay".toList = '/' :: "/evil.test/pay".toList := by decide
  rw [slashes] at leads
  generalize checkout.path = path at leads
  cases leads with
  | rooted => exact ⟨relative, target⟩
  | beside _ other => exact absurd rfl other
  | top other => exact absurd rfl other

end WebScript.Url
