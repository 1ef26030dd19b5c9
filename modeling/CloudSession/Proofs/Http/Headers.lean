/-
What is found in a header list. A name that was set has its value
(`get?_set_self`), setting it is not seen under another name
(`get?_set_of_ne`), and headers that are laid over others leave the names
that they lack (`get?_extend_of_not_contains`). So a request carries the
session token in its header unless its caller names that header
(`get?_requestHeaders`).
-/
import CloudSession.Session.Requests

namespace CloudSession

namespace Headers

-- ==================================================================== names

theorem sameName_iff {a b : String} : sameName a b = true ↔ a.toLower = b.toLower := by
  rw [sameName, beq_iff_eq]

theorem sameName_self (a : String) : sameName a a = true := sameName_iff.mpr rfl

-- ================================================================== settings

theorem get?_set_self (h : Headers) (name value : String) :
    (h.set name value).get? name = some value := by
  have hfilter : (h.entries.filter fun entry => !sameName entry.1 name).find?
      (fun entry => sameName entry.1 name) = none := by
    rw [List.find?_eq_none]
    intro entry hentry
    have := (List.mem_filter.mp hentry).2
    simpa using this
  rw [get?, set, List.find?_append, hfilter]
  simp [sameName_self]

theorem get?_set_of_ne (h : Headers) {name other : String} (hne : sameName name other = false)
    (value : String) : (h.set name value).get? other = h.get? other := by
  have hfilter : (h.entries.filter fun entry => !sameName entry.1 name).find?
      (fun entry => sameName entry.1 other)
      = h.entries.find? fun entry => sameName entry.1 other := by
    rw [List.find?_filter]
    congr
    funext entry
    cases hother : sameName entry.1 other with
    | false => simp
    | true =>
      -- An entry of both names would make them one name.
      have hname : sameName entry.1 name = false := by
        rw [Bool.eq_false_iff]
        intro hname
        rw [sameName_iff] at hname hother
        rw [Bool.eq_false_iff] at hne
        exact hne (sameName_iff.mpr (hname.symm.trans hother))
      simp [hname]
  rw [get?, set, List.find?_append, hfilter]
  simp [get?, hne]

theorem setAll_cons (h : Headers) (pair : String × String) (rest : List (String × String)) :
    h.setAll (pair :: rest) = (h.set pair.1 pair.2).setAll rest := rfl

theorem get?_setAll_of_ne (pairs : List (String × String)) {name : String}
    (hne : ∀ pair ∈ pairs, sameName pair.1 name = false) (h : Headers) :
    (h.setAll pairs).get? name = h.get? name := by
  induction pairs generalizing h with
  | nil => rfl
  | cons pair rest ih =>
    rw [setAll_cons, ih fun p hp => hne p (List.mem_cons_of_mem _ hp),
      get?_set_of_ne h (hne pair List.mem_cons_self)]

/-- Headers laid over others are not seen under a name that they lack. -/
theorem get?_extend_of_not_contains (h : Headers) {other : Headers} {name : String}
    (hname : other.contains name = false) : (h.extend other).get? name = h.get? name := by
  refine get?_setAll_of_ne other.entries ?_ h
  intro pair hpair
  rw [contains, get?, Option.isSome_map, Option.isSome_eq_false_iff, Option.isNone_iff_eq_none,
    List.find?_eq_none] at hname
  simpa using hname pair hpair

end Headers

-- ================================================================ the token

namespace Protocol

/-- The header of requests that carries the session token. -/
def tokenHeader : Protocol → String
  | .keystone _ => "X-Auth-Token"
  | .vcloud v => v.tokenHeader

end Protocol

namespace Client

theorem get?_setIfSome_of_ne (h : Headers) {name other : String}
    (hne : Headers.sameName name other = false) (value : Option String) :
    (setIfSome h name value).get? other = h.get? other := by
  cases value with
  | none => rfl
  | some value => exact h.get?_set_of_ne hne value

theorem get?_protocolHeaders (p : Protocol) (token : String) :
    (Handshake.requestHeaders p token).get? p.tokenHeader = some token := by
  cases p with
  | keystone k =>
    show ((Headers.empty.set "X-Auth-Token" token).set "Accept" _).get? "X-Auth-Token" = _
    rw [Headers.get?_set_of_ne _ (by decide +kernel), Headers.get?_set_self]
  | vcloud v => exact Headers.get?_set_self _ _ _

/-- The other headers that a request gets are not the token's. -/
theorem otherHeaders_ne_tokenHeader (p : Protocol) :
    Headers.sameName "Content-Type" p.tokenHeader = false ∧
      Headers.sameName Microversion.header p.tokenHeader = false := by
  cases p with
  | keystone k =>
    show Headers.sameName "Content-Type" "X-Auth-Token" = false ∧
      Headers.sameName Microversion.header "X-Auth-Token" = false
    decide +kernel
  | vcloud v => cases v <;> decide +kernel

/-- Only the caller's headers can take the place of the session token. -/
theorem get?_requestHeaders (c : Client) (method : Method) (token : String) {caller : Headers}
    (h : caller.contains c.identity.protocol.tokenHeader = false) :
    (c.requestHeaders method token caller).get? c.identity.protocol.tokenHeader
      = some token := by
  obtain ⟨htype, hversion⟩ := otherHeaders_ne_tokenHeader c.identity.protocol
  simp only [requestHeaders]
  rw [Headers.get?_extend_of_not_contains _ h, get?_setIfSome_of_ne _ hversion,
    get?_setIfSome_of_ne _ htype, get?_protocolHeaders]

end Client
end CloudSession
