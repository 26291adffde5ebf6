/-
  Switchgear.Lib.Url — the scheme and the authority of an absolute URL, as the
  WHATWG URL parser reads them.

  Leading and trailing control characters and spaces are dropped, tabs and
  newlines are dropped everywhere.  The scheme ends at the first `:`; the
  userinfo ends at the last `@` of the authority; the authority ends at `/`,
  `?`, `#`, and for a special scheme also at `\`.  The host parser (domains,
  addresses, forbidden characters) is a parameter.

  What the parser makes of a text `scheme://host/…` put together from two
  parts:

    * `parse_scheme_with_colon` — where the scheme part has a `:`, the host
      part is not consulted,
    * `parse_host_with_userinfo` — where the authority of the host part has an
      `@`, what is before the last one is not consulted,
    * `parse_plain` — else the host is the text before the first `:`,
    * `parse_file` — for the scheme `file` there is neither userinfo nor port.
-/
import Mathlib

namespace Switchgear.Lib

/-! ## §1. The parser. -/

inductive SchemeType where
  | file
  | specialNotFile
  | notSpecial
  deriving DecidableEq

def SchemeType.isSpecial : SchemeType → Bool
  | .file => true
  | .specialNotFile => true
  | .notSpecial => false

/-- The type of a scheme in lower case. -/
def SchemeType.of (scheme : List Char) : SchemeType :=
  if scheme = "file".toList then .file
  else if scheme ∈ ["http".toList, "https".toList, "ws".toList, "wss".toList, "ftp".toList] then
    .specialNotFile
  else .notSpecial

/-- A host from its text, in its serialization; opaque hosts are those of schemes that are
not special. -/
structure HostParser where
  parse : (isOpaque : Bool) → List Char → Option String

/-- A parsed URL; path, query and fragment stay as they are. -/
structure Url where
  scheme : List Char
  userinfo : Option (List Char)
  host : Option String
  port : Option ℕ
  tail : List Char
  deriving DecidableEq

namespace Url

def isControlOrSpace (c : Char) : Bool := decide (c.toNat ≤ 0x20)

def isTabOrNewline (c : Char) : Bool := c == '\t' || c == '\n' || c == '\r'

/-- Drop tabs and newlines. -/
def dropTabs (text : List Char) : List Char := text.filter fun c => !isTabOrNewline c

/-- What the parser starts from. -/
def clean (text : List Char) : List Char :=
  dropTabs ((text.dropWhile isControlOrSpace).rdropWhile isControlOrSpace)

def isSchemeChar (c : Char) : Bool := c.isAlphanum || c == '+' || c == '-' || c == '.'

/-- The scheme in lower case and what follows its `:`. -/
def splitScheme (text : List Char) : Option (List Char × List Char) :=
  match text.takeWhile isSchemeChar, text.dropWhile isSchemeChar with
  | c :: cs, ':' :: rest => if c.isAlpha then some ((c :: cs).map Char.toLower, rest) else none
  | _, _ => none

def isSlash (c : Char) : Bool := c == '/' || c == '\\'

def isAuthorityEnd (type : SchemeType) (c : Char) : Bool :=
  c == '/' || c == '?' || c == '#' || (type.isSpecial && c == '\\')

/-- The text up to the end of the authority. -/
def authority (type : SchemeType) (text : List Char) : List Char :=
  text.takeWhile fun c => !isAuthorityEnd type c

def afterAuthority (type : SchemeType) (text : List Char) : List Char :=
  text.dropWhile fun c => !isAuthorityEnd type c

/-- What follows the last `@`, or all of it. -/
def afterUserinfo (authority : List Char) : List Char := authority.rtakeWhile fun c => c != '@'

def userinfoOf (authority : List Char) : Option (List Char) :=
  if '@' ∈ authority then some (authority.rdropWhile fun c => c != '@').dropLast else none

/-- The host and, after the first `:` outside brackets, the port. -/
def splitPort : (inside : Bool) → List Char → List Char × Option (List Char)
  | _, [] => ([], none)
  | inside, c :: rest =>
      if c = ':' ∧ inside = false then ([], some rest)
      else
        let inside := if c = '[' then true else if c = ']' then false else inside
        let (host, port) := splitPort inside rest
        (c :: host, port)

def defaultPort (scheme : List Char) : Option ℕ :=
  if scheme ∈ ["http".toList, "ws".toList] then some 80
  else if scheme ∈ ["https".toList, "wss".toList] then some 443
  else if scheme = "ftp".toList then some 21
  else none

/-- `none`: not a port. -/
def parsePort (scheme port : List Char) : Option (Option ℕ) :=
  if port.all Char.isDigit then
    let value := port.foldl (fun value c => 10 * value + (c.toNat - '0'.toNat)) 0
    if 65535 < value then none
    -- the default port of the scheme is left out
    else if port.isEmpty || defaultPort scheme = some value then some none
    else some (some value)
  else none

variable (hosts : HostParser)

def parseAuthority (scheme : List Char) (type : SchemeType) (authority tail : List Char) :
    Option Url :=
  let hostport := afterUserinfo authority
  -- userinfo needs a host after it
  if decide ('@' ∈ authority) && hostport.isEmpty then none
  else
    let (host, port) := splitPort false hostport
    if host.isEmpty && (type.isSpecial || port.isSome) then none
    else do
      let host ← hosts.parse (!type.isSpecial) host
      let port ← port.elim (some none) (parsePort scheme)
      return { scheme, userinfo := userinfoOf authority, host := some host, port, tail }

def isWindowsDriveLetter : List Char → Bool
  | [c, c'] => c.isAlpha && (c' == ':' || c' == '|')
  | _ => false

/-- The authority of a `file` URL is a host and nothing else. -/
def parseFileAuthority (scheme authority tail : List Char) : Option Url :=
  -- a drive letter is no host: it goes back to the path
  if isWindowsDriveLetter authority then
    some { scheme, userinfo := none, host := some "", port := none, tail := authority ++ tail }
  else if authority.isEmpty then
    some { scheme, userinfo := none, host := some "", port := none, tail }
  else do
    let host ← hosts.parse false authority
    return { scheme, userinfo := none, host := some (if host = "localhost" then "" else host),
             port := none, tail }

/-- What follows the `:` of the scheme. -/
def parseRest (scheme rest : List Char) : Option Url :=
  match SchemeType.of scheme with
  | .file =>
      match rest with
      | c :: c' :: rest' =>
          if isSlash c && isSlash c' then
            parseFileAuthority hosts scheme (authority .file rest') (afterAuthority .file rest')
          else some { scheme, userinfo := none, host := some "", port := none, tail := rest }
      | _ => some { scheme, userinfo := none, host := some "", port := none, tail := rest }
  | .specialNotFile =>
      -- however many slashes there are, either way, what follows them is the authority
      let rest := rest.dropWhile isSlash
      parseAuthority hosts scheme .specialNotFile (authority .specialNotFile rest)
        (afterAuthority .specialNotFile rest)
  | .notSpecial =>
      match rest with
      | '/' :: '/' :: rest =>
          parseAuthority hosts scheme .notSpecial (authority .notSpecial rest)
            (afterAuthority .notSpecial rest)
      -- no authority: an opaque path, or one from the root
      | _ => some { scheme, userinfo := none, host := none, port := none, tail := rest }

def parseClean (text : List Char) : Option Url :=
  (splitScheme text).bind fun (scheme, rest) => parseRest hosts scheme rest

/-- The basic URL parser, without a base URL. -/
def parse (text : List Char) : Option Url := parseClean hosts (clean text)

/-! ## §2. Cutting texts. -/

section Cut

variable {α : Type} {p : α → Bool} {b : α}

theorem takeWhile_append_cons (h : p b = false) (as bs : List α) :
    (as ++ b :: bs).takeWhile p = as.takeWhile p := by
  induction as with
  | nil => rw [List.nil_append, List.takeWhile_cons_of_neg (by simp [h]), List.takeWhile_nil]
  | cons a as ih =>
      rw [List.cons_append, List.takeWhile_cons, List.takeWhile_cons, ih]

theorem dropWhile_append_cons (h : p b = false) (as bs : List α) :
    (as ++ b :: bs).dropWhile p = as.dropWhile p ++ b :: bs := by
  induction as with
  | nil => rw [List.nil_append, List.dropWhile_cons_of_neg (by simp [h])]; rfl
  | cons a as ih =>
      rw [List.cons_append, List.dropWhile_cons, List.dropWhile_cons]
      split
      · exact ih
      · rfl

theorem rdropWhile_append_cons (h : p b = false) (as bs : List α) :
    (as ++ b :: bs).rdropWhile p = as ++ b :: bs.rdropWhile p := by
  unfold List.rdropWhile
  rw [List.reverse_append, List.reverse_cons, List.append_assoc, List.singleton_append,
    dropWhile_append_cons h]
  simp

theorem rtakeWhile_append_cons (h : p b = false) (as bs : List α) :
    (as ++ b :: bs).rtakeWhile p = bs.rtakeWhile p := by
  unfold List.rtakeWhile
  rw [List.reverse_append, List.reverse_cons, List.append_assoc, List.singleton_append,
    takeWhile_append_cons h]

end Cut

@[simp] theorem dropTabs_append (a b : List Char) : dropTabs (a ++ b) = dropTabs a ++ dropTabs b :=
  List.filter_append ..

@[simp] theorem dropTabs_cons_of_neg {c : Char} (h : isTabOrNewline c = false)
    (text : List Char) : dropTabs (c :: text) = c :: dropTabs text := by
  unfold dropTabs
  rw [List.filter_cons_of_pos (by simp [h])]

/-- What is left of a text that something follows. -/
def cleanStart (text : List Char) : List Char := dropTabs (text.dropWhile isControlOrSpace)

/-- A text up to a slash is cleaned on its own. -/
theorem clean_append (before after : List Char) :
    clean (before ++ '/' :: after)
      = cleanStart before ++ '/' :: dropTabs (after.rdropWhile isControlOrSpace) := by
  unfold clean cleanStart
  rw [dropWhile_append_cons (by decide), rdropWhile_append_cons (by decide), dropTabs_append,
    dropTabs_cons_of_neg (by decide)]

theorem cleanStart_append (scheme rest : List Char) :
    cleanStart (scheme ++ ':' :: rest) = cleanStart scheme ++ ':' :: dropTabs rest := by
  unfold cleanStart
  rw [dropWhile_append_cons (by decide), dropTabs_append, dropTabs_cons_of_neg (by decide)]

theorem clean_scheme (scheme text : List Char) :
    ∃ text', clean (scheme ++ ':' :: '/' :: '/' :: text)
      = cleanStart scheme ++ ':' :: '/' :: '/' :: text' := by
  have hsplit : scheme ++ ':' :: '/' :: '/' :: text = (scheme ++ ':' :: ['/']) ++ '/' :: text := by
    simp
  refine ⟨dropTabs (text.rdropWhile isControlOrSpace), ?_⟩
  rw [hsplit, clean_append, cleanStart_append, dropTabs_cons_of_neg (by decide)]
  simp [dropTabs]

theorem clean_host (scheme host text : List Char) :
    ∃ text', clean (scheme ++ ':' :: '/' :: '/' :: (host ++ '/' :: text))
      = cleanStart scheme ++ ':' :: '/' :: '/' :: (dropTabs host ++ '/' :: text') := by
  have hsplit : scheme ++ ':' :: '/' :: '/' :: (host ++ '/' :: text)
      = (scheme ++ ':' :: '/' :: '/' :: host) ++ '/' :: text := by simp
  refine ⟨dropTabs (text.rdropWhile isControlOrSpace), ?_⟩
  rw [hsplit, clean_append, cleanStart_append, dropTabs_cons_of_neg (by decide),
    dropTabs_cons_of_neg (by decide)]
  simp

/-- A text without `:` as a scheme. -/
def schemeOf : List Char → Option (List Char)
  | [] => none
  | c :: cs =>
      if c.isAlpha && (c :: cs).all isSchemeChar then some ((c :: cs).map Char.toLower) else none

theorem splitScheme_append {scheme : List Char} (h : ':' ∉ scheme) (text : List Char) :
    splitScheme (scheme ++ ':' :: text) = (schemeOf scheme).map fun scheme => (scheme, text) := by
  have hcolon : isSchemeChar ':' = false := by decide
  unfold splitScheme
  rw [takeWhile_append_cons hcolon, dropWhile_append_cons hcolon]
  by_cases hall : ∀ c ∈ scheme, isSchemeChar c = true
  · rw [List.takeWhile_eq_self_iff.mpr hall, List.dropWhile_eq_nil_iff.mpr hall]
    cases scheme with
    | nil => rfl
    | cons c cs =>
        have hall' : (c :: cs).all isSchemeChar = true := List.all_eq_true.mpr hall
        unfold schemeOf
        dsimp only [List.nil_append]
        rw [hall', Bool.and_true]
        by_cases halpha : c.isAlpha = true
        · simp [halpha]
        · simp [halpha]
  · -- the text stops being a scheme at another character than `:`
    cases hrest : scheme.dropWhile isSchemeChar with
    | nil => exact absurd (List.dropWhile_eq_nil_iff.mp hrest) hall
    | cons d ds =>
        have hd : d ≠ ':' := by
          intro hd
          subst hd
          exact h ((List.dropWhile_sublist isSchemeChar).mem (by rw [hrest]; exact List.mem_cons_self))
        have hnone : schemeOf scheme = none := by
          cases scheme with
          | nil => rfl
          | cons c cs =>
              have hall' : (c :: cs).all isSchemeChar = false := by
                rw [Bool.eq_false_iff]
                intro htrue
                exact hall (List.all_eq_true.mp htrue)
              unfold schemeOf
              dsimp only
              rw [hall', Bool.and_false]
              rfl
        rw [hnone]
        cases scheme.takeWhile isSchemeChar with
        | nil => rfl
        | cons c cs =>
            rw [List.cons_append]
            split
            · rename_i heq
              exact absurd (List.cons.inj heq).1 hd
            · rfl

/-! ## §3. The host of an authority. -/

variable (hosts : HostParser)

/-- What follows the authority goes to the tail. -/
theorem parseAuthority_tail (scheme : List Char) (type : SchemeType)
    (authority tail tail' : List Char) :
    parseAuthority hosts scheme type authority tail
      = (parseAuthority hosts scheme type authority tail').map fun url => { url with tail } := by
  unfold parseAuthority
  dsimp only
  split
  · rfl
  · split
    · rfl
    · cases hosts.parse (!type.isSpecial) (splitPort false (afterUserinfo authority)).1 with
      | none => rfl
      | some host =>
          cases (splitPort false (afterUserinfo authority)).2.elim (some none)
            (parsePort scheme) <;> rfl

/-- The host does not depend on what follows the authority. -/
theorem parseAuthority_host_tail (scheme : List Char) (type : SchemeType)
    (authority tail tail' : List Char) :
    (parseAuthority hosts scheme type authority tail).map Url.host
      = (parseAuthority hosts scheme type authority tail').map Url.host := by
  rw [parseAuthority_tail hosts scheme type authority tail tail', Option.map_map]
  rfl

theorem parseFileAuthority_host_tail (scheme authority tail tail' : List Char) :
    (parseFileAuthority hosts scheme authority tail).map Url.host
      = (parseFileAuthority hosts scheme authority tail').map Url.host := by
  unfold parseFileAuthority
  split
  · rfl
  · split
    · rfl
    · cases hosts.parse false authority <;> rfl

theorem afterUserinfo_of_not_mem {authority : List Char} (h : '@' ∉ authority) :
    afterUserinfo authority = authority := by
  unfold afterUserinfo
  rw [List.rtakeWhile_eq_self_iff]
  intro c hc
  simp only [bne_iff_ne, ne_eq]
  intro heq
  subst heq
  exact h hc

/-- Only what follows the userinfo decides the host. -/
theorem parseAuthority_host_userinfo {authority : List Char} (h : '@' ∈ authority)
    (scheme : List Char) (type : SchemeType) (tail tail' : List Char) :
    (parseAuthority hosts scheme type authority tail).map Url.host
      = (parseAuthority hosts scheme type ('@' :: afterUserinfo authority) tail').map Url.host := by
  have hafter : afterUserinfo ('@' :: afterUserinfo authority) = afterUserinfo authority := by
    have hcons : afterUserinfo ([] ++ '@' :: afterUserinfo authority)
        = afterUserinfo (afterUserinfo authority) := rtakeWhile_append_cons (by decide) _ _
    rw [List.nil_append] at hcons
    rw [hcons]
    exact List.rtakeWhile_idempotent _ authority
  have hmem : decide ('@' ∈ authority) = true := decide_eq_true h
  have hmem' : decide ('@' ∈ '@' :: afterUserinfo authority) = true :=
    decide_eq_true List.mem_cons_self
  unfold parseAuthority
  dsimp only
  rw [hafter, hmem, hmem']
  split
  · rfl
  · split
    · rfl
    · cases hosts.parse (!type.isSpecial) (splitPort false (afterUserinfo authority)).1 with
      | none => rfl
      | some host =>
          cases (splitPort false (afterUserinfo authority)).2.elim (some none)
            (parsePort scheme) <;> rfl

/-! ## §4. Names. -/

/-- A character of a plain host name. -/
def isNameChar (c : Char) : Bool := c.isAlphanum || c == '-' || c == '.' || c == '_'

/-- A host name the parser leaves as it is: it is in the parser's own spelling, which is in
lower case, so that `Good.com` is none. -/
structure PlainName (name : String) : Prop where
  nonempty : name.toList ≠ []
  chars : ∀ c ∈ name.toList, isNameChar c = true
  parsed : ∀ isOpaque, hosts.parse isOpaque name.toList = some name

/-- A character of a name is none of those that delimit something. -/
theorem isNameChar_ne {c d : Char} (hc : isNameChar c = true) (hd : isNameChar d = false) :
    c ≠ d := by
  intro h
  rw [h, hd] at hc
  cases hc

theorem splitPort_name (rest : List Char) :
    ∀ (name : List Char), (∀ c ∈ name, isNameChar c = true) →
      (splitPort false (name ++ rest)).1 = name ++ (splitPort false rest).1
  | [], _ => rfl
  | c :: name, h => by
      have hc := h c List.mem_cons_self
      have hcolon : c ≠ ':' := isNameChar_ne hc (by decide)
      have hopen : c ≠ '[' := isNameChar_ne hc (by decide)
      have hclose : c ≠ ']' := isNameChar_ne hc (by decide)
      have ih := splitPort_name rest name fun d hd => h d (List.mem_cons_of_mem c hd)
      rw [List.cons_append, splitPort, if_neg (by simp [hcolon])]
      dsimp only
      rw [if_neg hopen, if_neg hclose, ih]
      rfl

/-- What is left of a host value whose domain was cut off at the first `:`. -/
inductive PortRest : List Char → Prop where
  | nil : PortRest []
  | colon (rest : List Char) : PortRest (':' :: rest)

theorem PortRest.authority {rest : List Char} (h : PortRest rest) (type : SchemeType) :
    PortRest (authority type rest) := by
  cases h with
  | nil => exact .nil
  | colon rest =>
      unfold Url.authority
      rw [List.takeWhile_cons_of_pos (by cases type <;> decide)]
      exact .colon _

theorem PortRest.splitPort {rest : List Char} (h : PortRest rest) :
    (Url.splitPort false rest).1 = [] := by
  cases h with
  | nil => rfl
  | colon rest => simp [Url.splitPort]

theorem authority_name (type : SchemeType) {name : List Char}
    (h : ∀ c ∈ name, isNameChar c = true) (rest : List Char) :
    authority type (name ++ rest) = name ++ authority type rest := by
  unfold authority
  rw [List.takeWhile_append_of_pos]
  intro c hc
  have hname := h c hc
  have hslash : c ≠ '/' := isNameChar_ne hname (by decide)
  have hquery : c ≠ '?' := isNameChar_ne hname (by decide)
  have hhash : c ≠ '#' := isNameChar_ne hname (by decide)
  have hback : c ≠ '\\' := isNameChar_ne hname (by decide)
  simp [isAuthorityEnd, hslash, hquery, hhash, hback]

/-- An authority without userinfo that starts with a plain name, up to the port, has that
name as its host. -/
theorem parseAuthority_plain {name : String} (hname : PlainName hosts name) {rest : List Char}
    (hrest : PortRest rest) {scheme : List Char} {type : SchemeType} {tail : List Char} {url : Url}
    (hat : '@' ∉ name.toList ++ rest)
    (h : parseAuthority hosts scheme type (name.toList ++ rest) tail = some url) :
    url.host = some name := by
  have hsplit : (splitPort false (name.toList ++ rest)).1 = name.toList := by
    rw [splitPort_name rest _ hname.chars, hrest.splitPort, List.append_nil]
  have hmem : decide ('@' ∈ name.toList ++ rest) = false := decide_eq_false hat
  have hempty : name.toList.isEmpty = false := by
    rw [List.isEmpty_eq_false_iff]
    exact hname.nonempty
  unfold parseAuthority at h
  rw [afterUserinfo_of_not_mem hat, hmem] at h
  dsimp only at h
  rw [hsplit, hempty, hname.parsed] at h
  cases hport : (splitPort false (name.toList ++ rest)).2.elim (some none) (parsePort scheme) with
  | none => simp [hport] at h
  | some port =>
      simp only [hport, Bool.false_and, Bool.false_eq_true, if_false, Option.bind_eq_bind,
        Option.bind_some, Option.pure_def, Option.some.injEq] at h
      rw [← h]

/-! ## §5. File URLs. -/

/-- Outside brackets no host has a `:`. -/
def RejectsColon : Prop :=
  ∀ text : List Char, ':' ∈ text → text.head? ≠ some '[' → hosts.parse false text = none

/-- The authorities a `file` URL forgets. -/
def dropsHost (authority : List Char) : Bool :=
  authority == "localhost".toList || isWindowsDriveLetter authority

theorem isWindowsDriveLetter_name {name : List Char} (h : ∀ c ∈ name, isNameChar c = true) :
    isWindowsDriveLetter name = false := by
  match name, h with
  | [], _ => rfl
  | [_], _ => rfl
  | [c, d], h =>
      have hd := h d (by simp)
      have hcolon : d ≠ ':' := isNameChar_ne hd (by decide)
      have hbar : d ≠ '|' := isNameChar_ne hd (by decide)
      simp [isWindowsDriveLetter, hcolon, hbar]
  | _ :: _ :: _ :: _, _ => rfl

/-- An authority of a `file` URL that starts with a plain name, up to the port. -/
theorem parseFileAuthority_plain (hcolon : RejectsColon hosts) {name : String}
    (hname : PlainName hosts name) {rest : List Char} (hrest : PortRest rest)
    (scheme tail : List Char) :
    (parseFileAuthority hosts scheme (name.toList ++ rest) tail).map Url.host
      = if dropsHost (name.toList ++ rest) then some (some "")
        else if rest = [] then some (some name) else none := by
  have hempty : (name.toList ++ rest).isEmpty = false := by
    rw [List.isEmpty_eq_false_iff]
    intro h
    exact hname.nonempty (List.append_eq_nil_iff.mp h).1
  unfold parseFileAuthority dropsHost
  rw [hempty]
  cases hrest with
  | nil =>
      rw [List.append_nil, isWindowsDriveLetter_name hname.chars, hname.parsed]
      by_cases hlocal : name = "localhost"
      · subst hlocal
        rfl
      · have hlist : (name.toList == "localhost".toList) = false := by
          rw [beq_eq_false_iff_ne]
          intro h
          exact hlocal (String.toList_inj.mp h)
        rw [hlist]
        simp [hlocal]
  | colon rest =>
      have hlist : (name.toList ++ ':' :: rest == "localhost".toList) = false := by
        rw [beq_eq_false_iff_ne]
        intro h
        have hmem : ':' ∈ "localhost".toList := by
          rw [← h]
          simp
        exact absurd hmem (by decide)
      have hhead : (name.toList ++ ':' :: rest).head? ≠ some '[' := by
        intro h
        cases hchars : name.toList with
        | nil => exact hname.nonempty hchars
        | cons c cs =>
            have hc := hname.chars c (by rw [hchars]; exact List.mem_cons_self)
            rw [hchars, List.cons_append, List.head?_cons, Option.some.injEq] at h
            exact isNameChar_ne hc (by decide) h
      rw [hcolon _ (by simp) hhead, hlist]
      cases isWindowsDriveLetter (name.toList ++ ':' :: rest) <;> simp

/-! ## §6. The host of a text put together from two parts. -/

/-- With a `:` and a slash behind it, the rest of the text is not consulted. -/
theorem parseRest_host_of_colon (scheme rest text text' : List Char) :
    (parseRest hosts scheme (rest ++ ':' :: '/' :: text)).map Url.host
      = (parseRest hosts scheme (rest ++ ':' :: '/' :: text')).map Url.host := by
  have hauthority : ∀ (type : SchemeType) (rest text : List Char),
      authority type (rest ++ ':' :: '/' :: text) = authority type (rest ++ [':']) := by
    intro type rest text
    have hsplit : rest ++ ':' :: '/' :: text = (rest ++ [':']) ++ '/' :: text := by simp
    unfold authority
    rw [hsplit, takeWhile_append_cons (by cases type <;> decide)]
  have hcolon : isSlash ':' = false := by decide
  unfold parseRest
  cases SchemeType.of scheme with
  | file =>
      dsimp only
      rcases rest with _ | ⟨c, _ | ⟨c', rest⟩⟩
      · simp [hcolon]
      · simp [hcolon]
      · simp only [List.cons_append]
        split
        · rw [hauthority, hauthority]
          exact parseFileAuthority_host_tail hosts _ _ _ _
        · rfl
  | specialNotFile =>
      dsimp only
      rw [dropWhile_append_cons hcolon, dropWhile_append_cons hcolon, hauthority, hauthority]
      exact parseAuthority_host_tail hosts _ _ _ _ _
  | notSpecial =>
      dsimp only
      rcases rest with _ | ⟨c, _ | ⟨c', rest⟩⟩
      · rfl
      · by_cases hc : c = '/'
        · subst hc
          rfl
        · simp [hc]
      · by_cases hc : c = '/'
        · by_cases hc' : c' = '/'
          · subst hc hc'
            simp only [List.cons_append]
            rw [hauthority, hauthority]
            exact parseAuthority_host_tail hosts _ _ _ _ _
          · simp [hc']
        · simp [hc]

/-- What follows the slashes is the authority, up to its end. -/
theorem parseRest_host_authority (scheme : List Char) {host : List Char}
    (hslash : ∀ c ∈ host.head?, isSlash c = false) (hne : host ≠ []) (text : List Char) :
    (parseRest hosts scheme ('/' :: '/' :: (host ++ '/' :: text))).map Url.host
      = if SchemeType.of scheme = .file then
          (parseFileAuthority hosts scheme (authority .file host) []).map Url.host
        else
          (parseAuthority hosts scheme (SchemeType.of scheme)
            (authority (SchemeType.of scheme) host) []).map Url.host := by
  have hauthority : ∀ type : SchemeType,
      authority type (host ++ '/' :: text) = authority type host := by
    intro type
    unfold authority
    exact takeWhile_append_cons (by cases type <;> decide) _ _
  unfold parseRest
  cases SchemeType.of scheme with
  | file =>
      dsimp only
      rw [if_pos (by decide), if_pos rfl, hauthority]
      exact parseFileAuthority_host_tail hosts _ _ _ _
  | specialNotFile =>
      have hskip : ('/' :: '/' :: (host ++ '/' :: text)).dropWhile isSlash
          = host ++ '/' :: text := by
        cases host with
        | nil => exact absurd rfl hne
        | cons c cs =>
            have hc := hslash c rfl
            rw [List.dropWhile_cons_of_pos (by decide), List.dropWhile_cons_of_pos (by decide),
              List.cons_append, List.dropWhile_cons_of_neg (by simp [hc])]
      dsimp only
      rw [if_neg (by decide), hskip, hauthority]
      exact parseAuthority_host_tail hosts _ _ _ _ _
  | notSpecial =>
      rw [if_neg (by decide), ← hauthority]
      exact parseAuthority_host_tail hosts _ _ _ _ _

/-- The type of the scheme a text is cleaned to. -/
def schemeType (scheme : List Char) : SchemeType :=
  SchemeType.of ((cleanStart scheme).map Char.toLower)

theorem schemeOf_eq_map {scheme lower : List Char} (h : schemeOf scheme = some lower) :
    lower = scheme.map Char.toLower := by
  cases scheme with
  | nil => cases h
  | cons c cs =>
      unfold schemeOf at h
      dsimp only at h
      split at h
      · exact (Option.some.inj h).symm
      · cases h

theorem mem_cleanStart_colon (scheme : List Char) : ':' ∈ cleanStart scheme ↔ ':' ∈ scheme := by
  unfold cleanStart dropTabs
  rw [List.mem_filter]
  constructor
  · intro h
    exact (List.dropWhile_sublist _).mem h.1
  · intro h
    obtain ⟨as, bs, rfl⟩ := List.append_of_mem h
    rw [dropWhile_append_cons (by decide)]
    exact ⟨by simp, by decide⟩

/-- **A scheme part with a `:`** decides the host by itself. -/
theorem parse_scheme_with_colon {scheme : List Char} (h : ':' ∈ scheme) (text text' : List Char) :
    (parse hosts (scheme ++ ':' :: '/' :: '/' :: text)).map Url.host
      = (parse hosts (scheme ++ ':' :: '/' :: '/' :: text')).map Url.host := by
  obtain ⟨cleaned, hclean⟩ := clean_scheme scheme text
  obtain ⟨cleaned', hclean'⟩ := clean_scheme scheme text'
  obtain ⟨before, after, hsplit, hbefore⟩ :=
    List.eq_append_cons_of_mem ((mem_cleanStart_colon scheme).mpr h)
  unfold parse parseClean
  rw [hclean, hclean', hsplit, List.append_assoc, List.append_assoc, List.cons_append,
    List.cons_append, splitScheme_append hbefore, splitScheme_append hbefore]
  cases schemeOf before with
  | none => rfl
  | some lower => exact parseRest_host_of_colon hosts lower after _ _

theorem parse_scheme_without_colon {scheme : List Char} (h : ':' ∉ scheme)
    (host text : List Char) :
    ∃ text', parse hosts (scheme ++ ':' :: '/' :: '/' :: (host ++ '/' :: text))
      = (schemeOf (cleanStart scheme)).bind fun lower =>
          parseRest hosts lower ('/' :: '/' :: (dropTabs host ++ '/' :: text')) := by
  obtain ⟨text', hclean⟩ := clean_host scheme host text
  refine ⟨text', ?_⟩
  unfold parse parseClean
  rw [hclean, splitScheme_append (mt (mem_cleanStart_colon scheme).mp h)]
  cases schemeOf (cleanStart scheme) <;> rfl

/-- The host of the text, when the scheme part has no `:`. -/
theorem parse_host_authority {scheme : List Char} (h : ':' ∉ scheme) {host : List Char}
    (hslash : ∀ c ∈ (dropTabs host).head?, isSlash c = false) (hne : dropTabs host ≠ [])
    (text : List Char) :
    (parse hosts (scheme ++ ':' :: '/' :: '/' :: (host ++ '/' :: text))).map Url.host
      = (schemeOf (cleanStart scheme)).bind fun lower =>
          if schemeType scheme = .file then
            (parseFileAuthority hosts lower (authority .file (dropTabs host)) []).map Url.host
          else
            (parseAuthority hosts lower (schemeType scheme)
              (authority (schemeType scheme) (dropTabs host)) []).map Url.host := by
  obtain ⟨text', hparse⟩ := parse_scheme_without_colon hosts h host text
  rw [hparse]
  cases hlower : schemeOf (cleanStart scheme) with
  | none => rfl
  | some lower =>
      have htype : SchemeType.of lower = schemeType scheme := by
        unfold schemeType
        rw [schemeOf_eq_map hlower]
      dsimp only [Option.bind_some]
      rw [parseRest_host_authority hosts lower hslash hne, htype]

/-- **An authority with an `@`**: only what follows the last one decides the host. -/
theorem parse_host_with_userinfo {scheme : List Char} (h : ':' ∉ scheme)
    (hfile : schemeType scheme ≠ .file) {host : List Char}
    (hslash : ∀ c ∈ (dropTabs host).head?, isSlash c = false)
    (hat : '@' ∈ authority (schemeType scheme) (dropTabs host)) (text text' : List Char) :
    (parse hosts (scheme ++ ':' :: '/' :: '/' :: (host ++ '/' :: text))).map Url.host
      = (parse hosts (scheme ++ ':' :: '/' :: '/' ::
          ('@' :: afterUserinfo (authority (schemeType scheme) (dropTabs host))
            ++ '/' :: text'))).map Url.host := by
  have hne : dropTabs host ≠ [] := by
    intro hnil
    rw [hnil] at hat
    cases hat
  -- what follows the last `@` has neither tabs nor an end of the authority
  have hsub : ∀ c ∈ afterUserinfo (authority (schemeType scheme) (dropTabs host)),
      c ∈ authority (schemeType scheme) (dropTabs host) := fun c hc =>
    (List.rtakeWhile_suffix _ _).subset hc
  have htabs : dropTabs ('@' :: afterUserinfo (authority (schemeType scheme) (dropTabs host)))
      = '@' :: afterUserinfo (authority (schemeType scheme) (dropTabs host)) := by
    unfold dropTabs
    rw [List.filter_eq_self]
    intro c hc
    rcases List.mem_cons.mp hc with rfl | hc
    · decide
    · exact (List.mem_filter.mp ((List.takeWhile_sublist _).mem (hsub c hc))).2
  have hend : authority (schemeType scheme)
      ('@' :: afterUserinfo (authority (schemeType scheme) (dropTabs host)))
      = '@' :: afterUserinfo (authority (schemeType scheme) (dropTabs host)) := by
    refine List.takeWhile_eq_self_iff.mpr ?_
    intro c hc
    rcases List.mem_cons.mp hc with rfl | hc
    · cases schemeType scheme <;> decide
    · exact List.mem_takeWhile_imp (p := fun c => !isAuthorityEnd (schemeType scheme) c)
        (hsub c hc)
  rw [parse_host_authority hosts h hslash hne,
    parse_host_authority hosts h (by rw [htabs]; simp [isSlash]) (by rw [htabs]; simp), htabs,
    hend]
  cases schemeOf (cleanStart scheme) with
  | none => rfl
  | some lower =>
      dsimp only [Option.bind_some]
      rw [if_neg hfile, if_neg hfile]
      exact parseAuthority_host_userinfo hosts hat _ _ _ _

theorem PlainName.head {name : String} (hname : PlainName hosts name) (rest : List Char) :
    (∀ c ∈ (name.toList ++ rest).head?, isSlash c = false) ∧ name.toList ++ rest ≠ [] := by
  cases hchars : name.toList with
  | nil => exact absurd hchars hname.nonempty
  | cons c cs =>
      have hc := hname.chars c (by rw [hchars]; exact List.mem_cons_self)
      have hslash : c ≠ '/' := isNameChar_ne hc (by decide)
      have hback : c ≠ '\\' := isNameChar_ne hc (by decide)
      constructor
      · intro d hd
        obtain rfl : c = d := Option.some.inj hd
        simp [isSlash, hslash, hback]
      · simp

/-- **A plain name** up to the port, without userinfo, is the host. -/
theorem parse_plain {scheme : List Char} (h : ':' ∉ scheme) (hfile : schemeType scheme ≠ .file)
    {name : String} (hname : PlainName hosts name) {host rest : List Char}
    (hhost : dropTabs host = name.toList ++ rest) (hrest : PortRest rest)
    (hat : '@' ∉ authority (schemeType scheme) (dropTabs host)) {text : List Char} {url : Url}
    (hparse : parse hosts (scheme ++ ':' :: '/' :: '/' :: (host ++ '/' :: text)) = some url) :
    url.host = some name := by
  obtain ⟨hslash, hne⟩ := hname.head hosts rest
  have hmap := parse_host_authority hosts h (by rw [hhost]; exact hslash)
    (by rw [hhost]; exact hne) text
  rw [hhost, authority_name _ hname.chars] at hat
  rw [hparse, Option.map_some] at hmap
  cases hlower : schemeOf (cleanStart scheme) with
  | none =>
      rw [hlower] at hmap
      cases hmap
  | some lower =>
      rw [hlower, Option.bind_some, if_neg hfile, hhost, authority_name _ hname.chars] at hmap
      cases hauthority : parseAuthority hosts lower (schemeType scheme)
          (name.toList ++ authority (schemeType scheme) rest) [] with
      | none =>
          rw [hauthority] at hmap
          cases hmap
      | some url' =>
          have hplain := parseAuthority_plain hosts hname (hrest.authority _) hat hauthority
          rw [hauthority, Option.map_some, Option.some.injEq] at hmap
          rw [hmap, hplain]

/-- A text whose lower case is that of `file` is a scheme. -/
theorem schemeOf_file {scheme : List Char} (h : schemeType scheme = .file) :
    ∃ lower, schemeOf (cleanStart scheme) = some lower := by
  have hlower : (cleanStart scheme).map Char.toLower = "file".toList := by
    unfold schemeType SchemeType.of at h
    split at h
    · assumption
    · split at h <;> cases h
  have halpha : ∀ c ∈ cleanStart scheme, c.isAlpha = true := by
    intro c hc
    have hmem : c.toLower ∈ ['f', 'i', 'l', 'e'] := by
      have hfile : "file".toList = ['f', 'i', 'l', 'e'] := by decide
      rw [← hfile, ← hlower]
      exact List.mem_map_of_mem hc
    rw [← Char.isAlpha_toLower_eq_isAlpha]
    simp only [List.mem_cons, List.not_mem_nil, or_false] at hmem
    rcases hmem with hc | hc | hc | hc <;> rw [hc] <;> decide
  cases hclean : cleanStart scheme with
  | nil =>
      rw [hclean] at hlower
      cases hlower
  | cons c cs =>
      refine ⟨(c :: cs).map Char.toLower, ?_⟩
      unfold schemeOf
      dsimp only
      have hall : (c :: cs).all isSchemeChar = true := by
        rw [List.all_eq_true]
        intro d hd
        have hd' := halpha d (by rw [hclean]; exact hd)
        simp [isSchemeChar, Char.isAlphanum, hd']
      rw [hall, halpha c (by rw [hclean]; exact List.mem_cons_self)]
      rfl

/-- **A `file` URL** has the name as its host, unless it forgets it or does not parse. -/
theorem parse_file (hcolon : RejectsColon hosts) {scheme : List Char} (h : ':' ∉ scheme)
    (hfile : schemeType scheme = .file) {name : String} (hname : PlainName hosts name)
    {host rest : List Char} (hhost : dropTabs host = name.toList ++ rest) (hrest : PortRest rest)
    (text : List Char) :
    (parse hosts (scheme ++ ':' :: '/' :: '/' :: (host ++ '/' :: text))).map Url.host
      = if dropsHost (authority .file (dropTabs host)) then some (some "")
        else if authority .file rest = [] then some (some name) else none := by
  obtain ⟨hslash, hne⟩ := hname.head hosts rest
  obtain ⟨lower, hlower⟩ := schemeOf_file hfile
  rw [parse_host_authority hosts h (by rw [hhost]; exact hslash) (by rw [hhost]; exact hne),
    hlower, Option.bind_some, if_pos hfile, hhost, authority_name _ hname.chars]
  exact parseFileAuthority_plain hosts hcolon hname (hrest.authority .file) lower []

end Url

end Switchgear.Lib
