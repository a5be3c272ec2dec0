import RelyingParty.Proofs.Steps
import RelyingParty.Proofs.Url.Separators

set_option autoImplicit false

/-! # Texts that are no URLs

Splitting forgives nearly everything. Only the authority may be refused: for brackets that do not
pair up or do not enclose the host, for a host in brackets that is no address, and for a character
that stands for a delimiter. `Refused` says so with the error that is told, and
`split_eq_error_iff` that there is no other way to fail. -/

namespace RelyingParty.Url

variable {authority host : List Char} {cause : UrlError}

/-! ## Hosts -/

/-- The host of an authority in which both brackets occur, by the text that follows the user. It
    stands between brackets, and a port may follow. The brackets of the user count as brackets, so
    that one or both may be missing here. -/
inductive IsHost : List Char → List Char → Prop where
  | enclosed {host port : List Char} (hhost : ']' ∉ host)
      (hport : port = [] ∨ port.head? = some ':') : IsHost ('[' :: (host ++ ']' :: port)) host
  | unclosed {host : List Char} (hhost : ']' ∉ host) : IsHost ('[' :: host) host
  | bare {located : List Char} (h : '[' ∉ located) : IsHost located (located.takeWhile (· != ':'))

/-- A host between brackets is no address, for a reason. -/
inductive NotAddress (host : List Char) : UrlError → Prop where
  | future (h : host.head? = some 'v') (haddress : isFutureAddress host = false) :
      NotAddress host .futureAddress
  | former (h : host.head? ≠ some 'v') (haddress : isIPv4 host = true) :
      NotAddress host .bracketedIPv4
  | other (h : host.head? ≠ some 'v') (hformer : isIPv4 host = false)
      (haddress : isIPv6 host = false) : NotAddress host (.address (String.ofList host))

theorem checkHost_eq_error_iff : checkHost host = .error cause ↔ NotAddress host cause := by
  unfold checkHost
  constructor
  · intro h
    split at h
    · next hv =>
      split at h
      · exact absurd h (by simp)
      · next haddress =>
        rw [← Except.error.inj h]
        exact .future hv (Bool.eq_false_iff.2 haddress)
    · next hv =>
      split at h
      · next hformer =>
        rw [← Except.error.inj h]
        exact .former hv hformer
      · next hformer =>
        split at h
        · exact absurd h (by simp)
        · next haddress =>
          rw [← Except.error.inj h]
          exact .other hv (Bool.eq_false_iff.2 hformer) (Bool.eq_false_iff.2 haddress)
  · intro h
    cases h with
    | future hv haddress => simp [hv, haddress]
    | former hv haddress => simp [hv, haddress]
    | other hv hformer haddress => simp [hv, hformer, haddress]

theorem checkHost_eq_ok_iff : checkHost host = .ok () ↔ ∀ cause, ¬ NotAddress host cause := by
  simp only [← checkHost_eq_error_iff]
  cases checkHost host with
  | ok _ => simp
  | error cause => simp

/-- A host is found where one stands. -/
theorem bracketedHost_of_isHost (h : IsHost (afterLast '@' authority) host) :
    bracketedHost authority = .ok host := by
  unfold bracketedHost
  dsimp only
  generalize afterLast '@' authority = located at h
  cases h with
  | @enclosed host port hhost hport =>
    have hcut : cut? '[' ('[' :: (host ++ ']' :: port)) = some ([], host ++ ']' :: port) :=
      cut?_append List.not_mem_nil _
    rw [hcut]
    simp only [cut?_append hhost]
    rcases hport with rfl | hport
    · rfl
    · simp [hport]
  | unclosed hhost =>
    have hcut : cut? '[' ('[' :: host) = some ([], host) := cut?_append List.not_mem_nil _
    rw [hcut]
    simp only [cut?_eq_none_iff.2 hhost]
    rfl
  | bare h => rw [cut?_eq_none_iff.2 h]

theorem isHost_of_bracketedHost (h : bracketedHost authority = .ok host) :
    IsHost (afterLast '@' authority) host := by
  unfold bracketedHost at h
  dsimp only at h
  generalize afterLast '@' authority = located at h ⊢
  split at h
  · next before bracketed hcut =>
    obtain ⟨rfl, -⟩ := eq_append_of_cut? hcut
    split at h
    · exact absurd h (by simp)
    · next hbefore =>
      obtain rfl : before = [] := by simpa using hbefore
      split at h
      · next hfree =>
        rw [← Except.ok.inj h]
        exact .unclosed (cut?_eq_none_iff.1 hfree)
      · next host' port hclosed =>
        obtain ⟨rfl, hfree⟩ := eq_append_of_cut? hclosed
        split at h
        · next hport =>
          rw [← Except.ok.inj h]
          exact .enclosed hfree (by simpa using hport)
        · exact absurd h (by simp)
  · next hfree =>
    rw [← Except.ok.inj h]
    exact .bare (cut?_eq_none_iff.1 hfree)

theorem bracketedHost_eq_ok_iff :
    bracketedHost authority = .ok host ↔ IsHost (afterLast '@' authority) host :=
  ⟨isHost_of_bracketedHost, bracketedHost_of_isHost⟩

/-- If there is no host, something stands beside the brackets. -/
theorem bracketedHost_eq_error_iff :
    bracketedHost authority = .error cause ↔
      cause = .brackets ∧ ∀ host, ¬ IsHost (afterLast '@' authority) host := by
  have honly : ∀ cause, bracketedHost authority = .error cause → cause = .brackets := by
    intro cause h
    unfold bracketedHost at h
    dsimp only at h
    split at h
    · split at h
      · exact (Except.error.inj h).symm
      · split at h
        · exact absurd h (by simp)
        · split at h
          · exact absurd h (by simp)
          · exact (Except.error.inj h).symm
    · exact absurd h (by simp)
  simp only [← bracketedHost_eq_ok_iff]
  cases hfound : bracketedHost authority with
  | ok host => simp
  | error cause' =>
    obtain rfl := honly cause' hfound
    simp [eq_comm]

/-! ## Authorities -/

/-- An authority is refused with an error. -/
inductive Refused (authority : List Char) : UrlError → Prop where
  | unpaired (h : ¬ ('[' ∈ authority ↔ ']' ∈ authority)) : Refused authority .brackets
  | misplaced (hopens : '[' ∈ authority) (hcloses : ']' ∈ authority)
      (h : ∀ host, ¬ IsHost (afterLast '@' authority) host) : Refused authority .brackets
  | host {host : List Char} {cause : UrlError} (hopens : '[' ∈ authority)
      (hcloses : ']' ∈ authority) (hhost : IsHost (afterLast '@' authority) host)
      (h : NotAddress host cause) : Refused authority cause
  | delimiter (hpair : '[' ∈ authority ↔ ']' ∈ authority)
      (hhost : '[' ∈ authority → ∃ host, IsHost (afterLast '@' authority) host
        ∧ ∀ cause, ¬ NotAddress host cause)
      (h : ∃ c ∈ authority, c.toNat ∈ delimiterForms) :
      Refused authority (.compatibility (String.ofList authority))

/-- The check that no character of an authority stands for a delimiter. -/
def checkDelimiters (authority : List Char) : Except UrlError Unit :=
  if authority.any (fun c => delimiterForms.contains c.toNat) then
    .error (.compatibility (String.ofList authority))
  else .ok ()

theorem checkDelimiters_eq_error_iff :
    checkDelimiters authority = .error cause ↔
      cause = .compatibility (String.ofList authority)
        ∧ ∃ c ∈ authority, c.toNat ∈ delimiterForms := by
  have hany : (authority.any fun c => delimiterForms.contains c.toNat) = true ↔
      ∃ c ∈ authority, c.toNat ∈ delimiterForms := by
    simp only [List.any_eq_true, List.contains_iff_mem]
  unfold checkDelimiters
  rw [← hany]
  split
  · next hfound =>
    rw [and_iff_left hfound, Except.error.injEq, eq_comm]
  · next hfound => exact iff_of_false (by simp) fun h => hfound h.2

theorem checkAuthority_of_unpaired (h : ¬ ('[' ∈ authority ↔ ']' ∈ authority)) :
    checkAuthority authority = .error .brackets := by
  have hdiffer : (authority.contains '[' != authority.contains ']') = true := by
    rwa [bne_iff_ne, ne_eq, Bool.eq_iff_iff, List.contains_iff_mem, List.contains_iff_mem]
  simp only [checkAuthority, hdiffer, if_true]
  rfl

theorem checkAuthority_of_none (hopens : '[' ∉ authority) (hcloses : ']' ∉ authority) :
    checkAuthority authority = checkDelimiters authority := by
  simp [checkAuthority, hopens, hcloses, checkDelimiters]

theorem checkAuthority_of_both (hopens : '[' ∈ authority) (hcloses : ']' ∈ authority) :
    checkAuthority authority
      = (bracketedHost authority >>= fun host => checkHost host >>= fun _ =>
          checkDelimiters authority) := by
  simp [checkAuthority, hopens, hcloses, checkDelimiters]

theorem checkAuthority_eq_error_iff :
    checkAuthority authority = .error cause ↔ Refused authority cause := by
  by_cases hpair : '[' ∈ authority ↔ ']' ∈ authority
  · by_cases hopens : '[' ∈ authority
    · have hcloses := hpair.1 hopens
      rw [checkAuthority_of_both hopens hcloses, bind_eq_error_iff]
      simp only [check_bind_eq_error_iff, bracketedHost_eq_error_iff, bracketedHost_eq_ok_iff,
        checkHost_eq_error_iff, checkHost_eq_ok_iff, checkDelimiters_eq_error_iff]
      constructor
      · rintro (⟨rfl, hnone⟩ | ⟨host, hhost, haddress | ⟨haddress, rfl, hdelimiter⟩⟩)
        · exact .misplaced hopens hcloses hnone
        · exact .host hopens hcloses hhost haddress
        · exact .delimiter hpair (fun _ => ⟨host, hhost, haddress⟩) hdelimiter
      · intro h
        cases h with
        | unpaired h => exact absurd hpair h
        | misplaced _ _ hnone => exact Or.inl ⟨rfl, hnone⟩
        | host _ _ hhost haddress => exact Or.inr ⟨_, hhost, Or.inl haddress⟩
        | delimiter _ hhost hdelimiter =>
          obtain ⟨host, hhost, haddress⟩ := hhost hopens
          exact Or.inr ⟨host, hhost, Or.inr ⟨haddress, rfl, hdelimiter⟩⟩
    · have hcloses : ']' ∉ authority := fun h => hopens (hpair.2 h)
      rw [checkAuthority_of_none hopens hcloses, checkDelimiters_eq_error_iff]
      constructor
      · rintro ⟨rfl, hdelimiter⟩
        exact .delimiter hpair (fun h => absurd h hopens) hdelimiter
      · intro h
        cases h with
        | unpaired h => exact absurd hpair h
        | misplaced h => exact absurd h hopens
        | host h => exact absurd h hopens
        | delimiter _ _ hdelimiter => exact ⟨rfl, hdelimiter⟩
  · rw [checkAuthority_of_unpaired hpair]
    constructor
    · intro h
      rw [← Except.error.inj h]
      exact .unpaired hpair
    · intro h
      cases h with
      | unpaired => rfl
      | misplaced hopens hcloses => exact absurd (iff_of_true hopens hcloses) hpair
      | host hopens hcloses => exact absurd (iff_of_true hopens hcloses) hpair
      | delimiter h => exact absurd h hpair

/-! ## Texts -/

/-- The authority that is read off a text. -/
def authorityOf (s : String) : List Char := (takeAuthority (takeScheme (cleaned s)).2).1

/-- **A text is no URL exactly if its authority is refused**, and the error says why. -/
theorem split_eq_error_iff {s : String} : split s = .error cause ↔ Refused (authorityOf s) cause := by
  rw [← checkAuthority_eq_error_iff]
  unfold split
  rw [check_bind_eq_error_iff]
  exact or_iff_left fun h => absurd h.2 (by simp)

end RelyingParty.Url
