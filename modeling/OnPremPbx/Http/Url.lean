import OnPremPbx.Http.MessageParser

/-!
# HTTPS URLs

The URLs of RFC 3986 with the scheme `https`, a name for a host, and a path unless there is nothing
after the authority. The authority ends at the first of the marks that may follow it.
-/

namespace Url

/-- Where a request for a URL goes to, and what it asks for. -/
structure Target where
  host : Bytes
  port : ℕ
  path : Bytes
  deriving DecidableEq, Repr

def scheme : Bytes := Bytes.ofString "https://"

def isLetter (c : UInt8) : Bool := (0x41 ≤ c && c ≤ 0x5A) || (0x61 ≤ c && c ≤ 0x7A)

/-- A character of a registered name. -/
def isHostChar (c : UInt8) : Bool :=
  isLetter c || isDigit 10 c || (Bytes.ofString "-._~%!$&'()*+,;=").contains c

/-- A character of a path, a query or a fragment, or one between them. -/
def isPathChar (c : UInt8) : Bool := isHostChar c || (Bytes.ofString ":@/?#").contains c

/-- No mark that ends an authority. -/
def inAuthority (c : UInt8) : Bool := !(Bytes.ofString "/?#").contains c

/-- The port after its colon. -/
def readPort (ds : Bytes) : Option ℕ :=
  if ds ≠ [] ∧ ds.all (isDigit 10) then
    if 1 ≤ digitsValue 10 0 ds ∧ digitsValue 10 0 ds ≤ 65535 then some (digitsValue 10 0 ds)
    else none
  else none

def readAuthority (authority : Bytes) : Option (Bytes × ℕ) :=
  let host := authority.takeWhile (· ≠ 0x3A)
  if host ≠ [] ∧ host.all isHostChar then
    match authority.dropWhile (· ≠ 0x3A) with
    | []      => some (host, 443)
    | _ :: ds => (readPort ds).map fun port => (host, port)
  else none

/-- A path, with what may follow it. -/
def readPath (rest : Bytes) : Option Bytes :=
  if rest = [] then some [0x2F]
  else if rest.head? = some 0x2F ∧ rest.all isPathChar then some rest
  else none

/-- The authority of a URL, and what comes after it. -/
def authorityOf (url : Bytes) : Bytes := (url.drop scheme.length).takeWhile inAuthority

def restOf (url : Bytes) : Bytes := (url.drop scheme.length).dropWhile inAuthority

def read (url : Bytes) : Option Target :=
  if scheme <+: url then do
    let (host, port) ← readAuthority (authorityOf url)
    let path ← readPath (restOf url)
    some ⟨host, port, path⟩
  else none

/-- The origin of a URL. -/
def origin (url : Bytes) : Bytes := scheme ++ authorityOf url

/-! ### Characters -/

/-- A character of a name is no mark between the parts of a URL, no blank, and ends no line. -/
lemma ne_of_isHostChar {c k : UInt8} (hc : isHostChar c = true) (hk : isHostChar k = false) :
    c ≠ k := by
  rintro rfl
  rw [hc] at hk
  cases hk

lemma ne_of_isPathChar {c k : UInt8} (hc : isPathChar c = true) (hk : isPathChar k = false) :
    c ≠ k := by
  rintro rfl
  rw [hc] at hk
  cases hk

lemma inAuthority_of_ne {c : UInt8} (hslash : c ≠ 0x2F) (hquestion : c ≠ 0x3F)
    (hhash : c ≠ 0x23) : inAuthority c = true := by
  have hmarks : Bytes.ofString "/?#" = [0x2F, 0x3F, 0x23] := by decide
  rw [inAuthority, hmarks]
  simp [hslash, hquestion, hhash]

lemma inAuthority_of_isHostChar {c : UInt8} (h : isHostChar c = true) : inAuthority c = true :=
  inAuthority_of_ne (ne_of_isHostChar h (by decide)) (ne_of_isHostChar h (by decide))
    (ne_of_isHostChar h (by decide))

lemma isHostChar_of_isDigit {c : UInt8} (h : isDigit 10 c = true) : isHostChar c = true := by
  rw [isHostChar, h, Bool.or_true, Bool.true_or]

/-! ### Cuts -/

/-- A text is cut where a predicate ends. -/
lemma cut_append {α : Type*} {p : α → Bool} {l r : List α} (hl : ∀ a ∈ l, p a = true)
    (hr : ∀ a ∈ r.head?, p a = false) :
    (l ++ r).takeWhile p = l ∧ (l ++ r).dropWhile p = r := by
  have htake : r.takeWhile p = [] := by
    cases r with
    | nil => rfl
    | cons a r => exact List.takeWhile_cons_of_neg (by simp [hr a rfl])
  have hdrop : r.dropWhile p = r := by
    cases r with
    | nil => rfl
    | cons a r => exact List.dropWhile_cons_of_neg (by simp [hr a rfl])
  rw [List.takeWhile_append_of_pos hl, List.dropWhile_append_of_pos hl, htake, hdrop,
    List.append_nil]
  exact ⟨rfl, rfl⟩

lemma head_dropWhile {α : Type*} {p : α → Bool} (l : List α) :
    ∀ a ∈ (l.dropWhile p).head?, p a = false := by
  induction l with
  | nil => nofun
  | cons b l ih =>
    cases hb : p b with
    | true =>
      rw [List.dropWhile_cons_of_pos hb]
      exact ih
    | false =>
      rw [List.dropWhile_cons_of_neg (by simp [hb])]
      rintro a ⟨⟩
      exact hb

end Url
