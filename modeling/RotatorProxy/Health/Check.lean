import RotatorProxy.Outbound.Resource

/-! The health check of one node: a number of attempts, of which one success is enough. -/
namespace RotatorProxy.Health
open Outbound

inductive ProxyHealthCheckResult
  | healthy (delay : ℕ)
  | unhealthy
  | resourceExhausted (err : IoError)
  deriving DecidableEq

variable (libc : Libc)

/-- The loop of `check_proxy_node` over what `run_health_check` gives, a delay or an error. -/
def checkAttempts : List (Except IoError ℕ) → ProxyHealthCheckResult
  | [] => .unhealthy
  | .ok delay::_ => .healthy delay
  | .error err::attempts =>
    if isFileDescriptorExhaustion libc err then .resourceExhausted err else checkAttempts attempts

/-- There are no attempts when the isolated probe cannot be built. -/
def checkProxyNode : Option (List (Except IoError ℕ)) → ProxyHealthCheckResult
  | none => .unhealthy
  | some attempts => checkAttempts libc attempts

variable {libc}

/-- A node is unhealthy when every attempt fails for a reason of its own. -/
theorem checkAttempts_unhealthy (attempts : List (Except IoError ℕ))
    (h : ∀ attempt ∈ attempts, ∃ err, attempt = .error err ∧ isFileDescriptorExhaustion libc err = false) :
    checkAttempts libc attempts=.unhealthy := by
  induction attempts with
  | nil => rfl
  | cons attempt attempts ih =>
    obtain ⟨err,rfl,herr⟩ := h attempt List.mem_cons_self
    rw [checkAttempts,herr,if_neg Bool.false_ne_true]
    exact ih (fun a ha => h a (List.mem_cons_of_mem _ ha))

/-- An attempt that neither succeeds nor stops the check. -/
def IsFailure (libc : Libc) (attempt : Except IoError ℕ) : Prop :=
  ∃ err, attempt = .error err ∧ isFileDescriptorExhaustion libc err = false

/-- The first attempt that does not just fail decides. -/
lemma checkAttempts_append {before : List (Except IoError ℕ)} (h : ∀ attempt ∈ before, IsFailure libc attempt)
    (after : List (Except IoError ℕ)) : checkAttempts libc (before++after)=checkAttempts libc after := by
  induction before with
  | nil => rfl
  | cons attempt before ih =>
    obtain ⟨err,rfl,herr⟩ := h attempt List.mem_cons_self
    rw [List.cons_append,checkAttempts,herr,if_neg Bool.false_ne_true]
    exact ih (fun a ha => h a (List.mem_cons_of_mem _ ha))

theorem checkAttempts_healthy_iff {attempts : List (Except IoError ℕ)} {delay : ℕ} :
    checkAttempts libc attempts=.healthy delay ↔
      ∃ before after, attempts=before++ .ok delay::after ∧ ∀ attempt ∈ before, IsFailure libc attempt := by
  constructor
  · intro h
    induction attempts with
    | nil => cases h
    | cons attempt attempts ih =>
      cases attempt with
      | ok other =>
        cases h
        exact ⟨[],attempts,rfl,nofun⟩
      | error err =>
        rw [checkAttempts] at h
        split_ifs at h with herr
        obtain ⟨before,after,rfl,hbefore⟩ := ih h
        exact ⟨.error err::before,after,rfl,List.forall_mem_cons.mpr ⟨⟨err,rfl,Bool.not_eq_true _ ▸ herr⟩,hbefore⟩⟩
  · rintro ⟨before,after,rfl,hbefore⟩
    rw [checkAttempts_append hbefore]
    rfl

theorem checkAttempts_exhausted_iff {attempts : List (Except IoError ℕ)} {err : IoError} :
    checkAttempts libc attempts=.resourceExhausted err ↔ isFileDescriptorExhaustion libc err = true ∧
      ∃ before after, attempts=before++ .error err::after ∧ ∀ attempt ∈ before, IsFailure libc attempt := by
  constructor
  · intro h
    induction attempts with
    | nil => cases h
    | cons attempt attempts ih =>
      cases attempt with
      | ok delay => cases h
      | error other =>
        rw [checkAttempts] at h
        split_ifs at h with hother
        · cases h
          exact ⟨hother,[],attempts,rfl,nofun⟩
        · obtain ⟨herr,before,after,rfl,hbefore⟩ := ih h
          exact ⟨herr,.error other::before,after,rfl,
            List.forall_mem_cons.mpr ⟨⟨other,rfl,Bool.not_eq_true _ ▸ hother⟩,hbefore⟩⟩
  · rintro ⟨herr,before,after,rfl,hbefore⟩
    rw [checkAttempts_append hbefore,checkAttempts,if_pos herr]

end RotatorProxy.Health
