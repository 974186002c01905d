import CloudflareShard.Catalog.Tenants

/-!
# Revoked tokens stay revoked

A rotation reads the row of its tenant, awaits a digest and then writes the row anew, with the token
that it had read as the one before.  It must not find a token revoked that it read as current.

* `Final`               what holds of the rows, the credentials and the admissions;
* `recordToken_final`   handing out a token keeps it, on the terms;
* `authenticate_does`   a revoked token is not let through;
* `revocation_final`    **over every run on the terms, no revoked token is let through**.
-/

namespace Catalog
open Async Contracts

variable {sha256Hex : String → Hash} {adminToken : Option String} {s s' : TenantStore}

/-- the row lets the token through at no time -/
def Refuses (sha256Hex : String → Hash) (row : TenantAuth) (token : String) : Prop :=
  row.revokedAt.isSome ∨
    (sha256Hex token ≠ row.tokenHash ∧ row.previousTokenHash ≠ some (sha256Hex token))

theorem Refuses.not_matches {row : TenantAuth} {token : String} (h : Refuses sha256Hex row token)
    (hr : ¬row.revokedAt.isSome) (now : Nat) : matchesToken row (sha256Hex token) now = false := by
  obtain ⟨hcurrent, hprevious⟩ := h.resolve_left hr
  unfold matchesToken
  simp [hcurrent, hprevious]

structure Final (sha256Hex : String → Hash) (adminToken : Option String) (s : TenantStore) :
    Prop where
  revoked : s.revoked ⊆ s.issued
  /-- no tenant was given the operator's token -/
  foreign : ∀ c ∈ s.issued, adminToken ≠ some c.token
  refused : ∀ c ∈ s.revoked, ∀ row, s.tenantAuth c.tenantId = some row →
    Refuses sha256Hex row c.token
  admissions : ∀ a ∈ s.admissions, a.revoked = false

/-! ## the writes -/

/-- the tokens that an answer may bring: new ones, while the token that was read as the current one
has not been revoked -/
structure Fresh (sha256Hex : String → Hash) (adminToken : Option String) (tenantId : String)
    (existing : Option TenantAuth) (token : String) (s : TenantStore) : Prop where
  unused : ∀ c ∈ s.issued, c.token ≠ token
  foreign : adminToken ≠ some token
  current : ∀ row, existing = some row → row.revokedAt = none →
    ∀ c ∈ s.revoked, c.tenantId = tenantId → sha256Hex c.token ≠ row.tokenHash

theorem withToken_refuses {existing : Option TenantAuth} {hash : Hash} {now : Nat} {token : String}
    (hnew : sha256Hex token ≠ hash)
    (hold : ∀ row, existing = some row → row.revokedAt = none → sha256Hex token ≠ row.tokenHash) :
    Refuses sha256Hex (withToken existing hash now) token := by
  unfold withToken
  cases existing with
  | none => exact .inr ⟨hnew, nofun⟩
  | some row =>
    dsimp only
    split
    · rename_i hr
      refine .inr ⟨hnew, fun h => ?_⟩
      have hne := hold row rfl (by simpa using hr)
      exact hne (Option.some.inj h).symm
    · exact .inr ⟨hnew, nofun⟩

theorem recordToken_final (hinj : Function.Injective sha256Hex) {tenantId token : String}
    {existing : Option TenantAuth} (h : Final sha256Hex adminToken s)
    (hf : Fresh sha256Hex adminToken tenantId existing token s) :
    Final sha256Hex adminToken (recordToken sha256Hex tenantId existing token s) where
  revoked := fun c hc => List.mem_append_left _ (h.revoked hc)
  foreign := by
    intro c hc
    rcases List.mem_append.mp hc with hc | hc
    · exact h.foreign c hc
    · rw [List.mem_singleton.mp hc]
      exact hf.foreign
  refused := by
    intro c hc row hrow
    by_cases ht : c.tenantId = tenantId
    · have hrow : Function.update s.tenantAuth tenantId _ c.tenantId = some row := hrow
      rw [ht, Function.update_self] at hrow
      cases hrow
      refine withToken_refuses (fun he => ?_) fun row hr hn => hf.current row hr hn c hc ht
      exact hf.unused c (h.revoked hc) (hinj he)
    · refine h.refused c hc row ?_
      have hrow : Function.update s.tenantAuth tenantId _ c.tenantId = some row := hrow
      rwa [Function.update_of_ne ht] at hrow
  admissions := h.admissions

theorem recordRevocation_final {tenantId : String} (h : Final sha256Hex adminToken s) :
    Final sha256Hex adminToken (recordRevocation tenantId s) where
  revoked := by
    intro c hc
    rcases List.mem_append.mp hc with hc | hc
    · exact h.revoked hc
    · exact List.mem_of_mem_filter hc
  foreign := h.foreign
  refused := by
    intro c hc row hrow
    have hrow : Function.update s.tenantAuth tenantId _ c.tenantId = some row := hrow
    by_cases ht : c.tenantId = tenantId
    · -- the row that was just revoked
      rw [ht, Function.update_self] at hrow
      obtain ⟨row', -, rfl⟩ := Option.map_eq_some_iff.mp hrow
      exact .inl rfl
    · rw [Function.update_of_ne ht] at hrow
      rcases List.mem_append.mp hc with hc | hc
      · exact h.refused c hc row hrow
      · exact absurd (by simpa using (List.mem_filter.mp hc).2) ht
  admissions := h.admissions

/-! ## the handlers -/

/-- a section keeps what holds -/
def tenantRules (sha256Hex : String → Hash) (adminToken : Option String) : Rules TenantStore where
  inv := Final sha256Hex adminToken
  move s s' := Final sha256Hex adminToken s → Final sha256Hex adminToken s'
  move_refl _ := id
  inv_move h hm := hm h

/-- every request may come in at any time; only the token that an answer brings is on terms -/
def tenantTerms (sha256Hex : String → Hash) (adminToken : Option String) :
    Terms TenantStore Ask Ask.Answer TenantRequest Nat where
  accept _ := True
  ok _
    | .newToken tenantId existing, token, s =>
      Fresh sha256Hex adminToken tenantId existing token s
    | .sha256Hex _, _, _ => True
  event _ _ := True

/-- a piece of the handler of `request` -/
abbrev Does {α : Type} (sha256Hex : String → Hash) (adminToken : Option String)
    (request : TenantRequest) (p : Cat α) (post : α → TenantStore → Prop) (s : TenantStore) : Prop :=
  (tenantRules sha256Hex adminToken).Does ((tenantTerms sha256Hex adminToken).ok request) p post s

variable {request : TenantRequest}

theorem gets_does {α : Type} {f : TenantStore → α} :
    Does sha256Hex adminToken request (gets f) (fun a s' => s' = s ∧ a = f s) s :=
  Rules.Does.step (fun _ => id) (Rules.Does.pure ⟨rfl, rfl⟩)

theorem handleRegisterTenant_does (hinj : Function.Injective sha256Hex) {tenantId : Option String}
    {rotate : Bool} : Does sha256Hex adminToken request
      (handleRegisterTenant sha256Hex tenantId rotate) (fun _ _ => True) s := by
  refine Rules.Does.pause.bind fun _ _ _ _ => ?_
  split
  · exact Rules.Does.pure trivial
  · exact Rules.Does.pure trivial
  · refine gets_does.bind fun existing _ _ _ => ?_
    split
    · exact Rules.Does.pure trivial
    · refine Rules.Does.call fun s' token _ hfresh => ?_
      refine (Rules.Does.modify fun _ hi => ?_).bind fun _ _ _ _ => Rules.Does.pure trivial
      exact recordToken_final hinj hi hfresh

theorem handleRevokeTenant_does {tenantId : Option String} :
    Does sha256Hex adminToken request (handleRevokeTenant tenantId) (fun _ _ => True) s := by
  refine Rules.Does.pause.bind fun _ _ _ _ => ?_
  split
  · exact Rules.Does.pure trivial
  · exact Rules.Does.pure trivial
  · refine gets_does.bind fun row _ _ _ => ?_
    split
    · exact Rules.Does.pure trivial
    · refine (Rules.Does.modify fun _ hi => ?_).bind fun _ _ _ _ => Rules.Does.pure trivial
      exact recordRevocation_final hi

/-- a token that was revoked when the call began is not let through, whatever is written while its
digest is awaited -/
theorem checkTenantAuth_does {tenantId token : String}
    (hr : (⟨tenantId, token⟩ : Credential) ∈ s.revoked) :
    Does sha256Hex adminToken request
      (checkTenantAuth sha256Hex adminToken tenantId (some token)) (fun r _ => r ≠ none) s := by
  refine Rules.Does.of_inv fun hi => ?_
  unfold checkTenantAuth
  dsimp only
  split
  · rename_i hadmin
    -- the operator's token was handed out to nobody
    refine absurd ?_ (hi.foreign _ (hi.revoked hr))
    cases hop : adminToken with
    | none => simp [hop] at hadmin
    | some admin =>
      have hsame : admin ≠ "" ∧ token = admin := by simpa [hop] using hadmin
      rw [hsame.2]
  · refine gets_does.bind fun row s' _ h => ?_
    obtain ⟨rfl, rfl⟩ := h
    split
    · exact Rules.Does.pure nofun
    · rename_i row hrow
      split
      · exact Rules.Does.pure nofun
      · rename_i hlive
        refine Rules.Does.call fun s₁ _ _ _ => gets_does.bind fun now _ _ _ => ?_
        have hrefuses : Refuses sha256Hex row token := hi.refused _ hr row hrow
        rw [if_neg (by simp [hrefuses.not_matches hlive])]
        exact Rules.Does.pure nofun

theorem checkTenantAuth_looks (tenantId : String) (token : Option String) :
    Does sha256Hex adminToken request (checkTenantAuth sha256Hex adminToken tenantId token)
      (fun _ _ => True) s := by
  unfold checkTenantAuth
  split
  · exact Rules.Does.pure trivial
  · split
    · exact Rules.Does.pure trivial
    · refine gets_does.bind fun row _ _ _ => ?_
      split
      · exact Rules.Does.pure trivial
      · split
        · exact Rules.Does.pure trivial
        · refine Rules.Does.call fun _ _ _ _ => gets_does.bind fun now _ _ _ => ?_
          split <;> exact Rules.Does.pure trivial

theorem authenticate_does {tenantId : String} {authorization : Option String} :
    Does sha256Hex adminToken request (authenticate sha256Hex adminToken tenantId authorization)
      (fun _ _ => True) s := by
  refine gets_does.bind fun revoked s₀ _ h => ?_
  obtain ⟨rfl, rfl⟩ := h
  have hcheck : Does sha256Hex adminToken request
      (checkTenantAuth sha256Hex adminToken tenantId (bearerToken authorization))
      (fun r _ => r = none → s₀.revoked.contains
        (⟨tenantId, (bearerToken authorization).getD ""⟩ : Credential) = false) s₀ := by
    cases htoken : bearerToken authorization with
    | none => exact Rules.Does.pure nofun
    | some token =>
      cases hr : s₀.revoked.contains (⟨tenantId, token⟩ : Credential) with
      | true =>
        refine (checkTenantAuth_does (by simpa using hr)).mono fun r _ hne hnone => ?_
        exact absurd hnone hne
      | false => exact (checkTenantAuth_looks tenantId (some token)).mono fun _ _ _ _ => hr
  refine hcheck.bind fun refused s' _ hfalse => ?_
  split
  · exact Rules.Does.pure trivial
  · refine (Rules.Does.modify fun _ hi => ?_).bind fun _ _ _ _ => Rules.Does.pure trivial
    refine ⟨hi.revoked, hi.foreign, hi.refused, fun a ha => ?_⟩
    rcases List.mem_append.mp ha with ha | ha
    · exact hi.admissions a ha
    · rw [List.mem_singleton.mp ha]
      exact hfalse rfl

/-! ## runs -/

theorem tenants_obey (hinj : Function.Injective sha256Hex) :
    Obeys (tenantRules sha256Hex adminToken) (tenants sha256Hex adminToken)
      (tenantTerms sha256Hex adminToken) where
  handler request s _ := by
    cases request with
    | registerTenant tenantId rotate =>
      exact (handleRegisterTenant_does hinj).bind fun _ _ _ _ => Rules.Does.pure trivial
    | revokeTenant tenantId =>
      exact handleRevokeTenant_does.bind fun _ _ _ _ => Rules.Does.pure trivial
    | authenticate tenantId authorization => exact authenticate_does
  event _ _ _ _ := fun h => ⟨h.revoked, h.foreign, h.refused, h.admissions⟩
  restart _ _ := id

/-- a table of tenants of which nothing has been revoked and nobody was let through yet -/
structure Unrevoked (adminToken : Option String) (s : TenantStore) : Prop where
  revoked : s.revoked = []
  foreign : ∀ c ∈ s.issued, adminToken ≠ some c.token
  admissions : s.admissions = []

theorem Unrevoked.final (h : Unrevoked adminToken s) : Final sha256Hex adminToken s where
  revoked := by simp [h.revoked]
  foreign := h.foreign
  refused := by simp [h.revoked]
  admissions := by simp [h.admissions]

/-- **No revoked token is let through.**  In every run in which an answer brings a new token only
while the token that its rotation has read as the current one is not revoked, no call that begins
after a revocation was answered lets a token through that was handed out before it. -/
theorem revocation_final (sha256Hex : String → Hash) (hinj : Function.Injective sha256Hex)
    (adminToken : Option String) (s₀ : TenantStore) (h₀ : Unrevoked adminToken s₀)
    (xs : List (Choice Ask Ask.Answer TenantRequest Nat))
    (hxs : (tenants sha256Hex adminToken).Meets
      (fun c x => x.Allowed (tenants sha256Hex adminToken) (tenantTerms sha256Hex adminToken) c)
      ⟨s₀, []⟩ xs) :
    ∀ a ∈ ((tenants sha256Hex adminToken).run ⟨s₀, []⟩ xs).store.admissions, a.revoked = false := by
  rw [← List.append_nil xs] at hxs
  exact ((tenants_obey hinj).reachable h₀.final hxs).1.admissions

/-! ## a rotation that overtakes a revocation -/

def noTenants : TenantStore :=
  { tenantAuth := fun _ => none, now := 0, issued := [], revoked := [], admissions := [] }

/-- a digest that is its text -/
def plainTenants : System TenantStore Ask Ask.Answer Empty (Option Response) TenantRequest Nat :=
  tenants id none

/-- a new token is `token` -/
def drawing (token : String) : ∀ q : Ask, q.Answer
  | .newToken _ _ => token
  | .sha256Hex _ => ()

def arrives (request : TenantRequest) : Choice Ask Ask.Answer TenantRequest Nat :=
  .run (.arrive request)

def resumes (i : Nat) (token : String) : Choice Ask Ask.Answer TenantRequest Nat :=
  .run (.resume i (drawing token))

/-- a tenant with the token `old` -/
def registered : List (Choice Ask Ask.Answer TenantRequest Nat) :=
  [arrives (.registerTenant (some "t") false), resumes 0 "", resumes 0 "old"]

/-- the row is read for a rotation, the tenant is revoked, the rotation draws the token `new` -/
def overtaken : List (Choice Ask Ask.Answer TenantRequest Nat) :=
  registered ++ [arrives (.registerTenant (some "t") true), resumes 1 "",
    arrives (.revokeTenant (some "t")), resumes 2 "", resumes 1 "new",
    arrives (.authenticate "t" (some "Bearer old")), resumes 3 ""]

/-- **a token is let through after the revocation that killed it was answered** -/
theorem revoked_token_returns :
    (⟨⟨"t", "old"⟩, true⟩ : Admission) ∈ (plainTenants.run ⟨noTenants, []⟩ overtaken).store.admissions := by
  decide +kernel

/-- the tenant is revoked and gets another token, which is let through next to the old one -/
def reissued : List (Choice Ask Ask.Answer TenantRequest Nat) :=
  registered ++ [arrives (.revokeTenant (some "t")), resumes 1 "",
    arrives (.registerTenant (some "t") true), resumes 2 "", resumes 2 "new",
    arrives (.authenticate "t" (some "Bearer old")), resumes 3 "",
    arrives (.authenticate "t" (some "Bearer new")), resumes 4 ""]

def checksFresh : ∀ q : Ask, q.Answer → TenantStore → Bool
  | .newToken tenantId existing, token, s =>
    s.issued.all (fun c => c.token != token) && existing.all fun row =>
      row.revokedAt.isSome || s.revoked.all fun c =>
        c.tenantId != tenantId || c.token != row.tokenHash
  | .sha256Hex _, _, _ => true

theorem fresh_of_checks {request : TenantRequest} {q : Ask} {a : q.Answer}
    (h : checksFresh q a s) : (tenantTerms id none).ok request q a s := by
  cases q with
  | sha256Hex token => trivial
  | newToken tenantId existing =>
    obtain ⟨hunused, hcurrent⟩ := Bool.and_eq_true_iff.mp h
    refine ⟨fun c hc => bne_iff_ne.mp (List.all_eq_true.mp hunused c hc), nofun, fun row he hr c hc ht => ?_⟩
    subst he
    simp only [Option.all_some, hr, Option.isSome_none, Bool.false_or, List.all_eq_true] at hcurrent
    simpa [ht] using hcurrent c hc

/-- after a revocation the new token alone is let through -/
theorem reissued_final :
    (plainTenants.run ⟨noTenants, []⟩ reissued).store.admissions = [⟨⟨"t", "new"⟩, false⟩] ∧
      ∀ a ∈ (plainTenants.run ⟨noTenants, []⟩ reissued).store.admissions, a.revoked = false := by
  refine ⟨by decide +kernel, revocation_final id Function.injective_id none noTenants
    ⟨rfl, nofun, rfl⟩ reissued ?_⟩
  refine System.meets_of_checks (fun _ => trivial) (fun _ _ => trivial)
    (fun _ _ _ _ h => fresh_of_checks h) ?_
  decide +kernel

end Catalog
