import RotatorProxy.Health.Rounds

/-! A refresh of the pool. The candidates are checked if the configuration says so, the selected ones are merged into the
pool, and the disabled nodes are checked again. Nothing else uses the pool meanwhile. -/
namespace RotatorProxy.Health
open Text Proxy Outbound Config Link Library

structure RefreshSummary where
  loaded : ℕ
  active : ℕ

structure PreparedProxyRefresh where
  loaded : ℕ
  candidates : List ProxyNode

def RoundCall.exec (env : Externals) (cfg : PoolConfig) (now : ℕ) (pool : Pool) : RoundCall → Pool
  | report call => call.exec env cfg now pool
  | persistState => pool.persistState cfg

section Refresh
variable (ext : TargetExternals) (libc : Libc) (env : Externals) (cfg : PoolConfig) (now : ℕ) (config : HealthConfig)

inductive SelectActiveProxies (proxies : List ProxyNode) : Except Str (List ProxyNode) → Prop
  | checked {checks : Checks ProxyNode} {outcome : Except Str (List ProxyNode)}
      (enabled : config.healthCheckEnabled = true) (round : HealthCheckProxies ext libc config proxies checks outcome) :
    SelectActiveProxies proxies outcome
  | unchecked (disabled : config.healthCheckEnabled = false) : SelectActiveProxies proxies (.ok proxies)

/-- What a refresh can come to, and the pool that it leaves. -/
inductive ApplyPreparedProxyRefresh (pool : Pool) (prepared : PreparedProxyRefresh) :
    Except Str RefreshSummary → Pool → Prop
  | failed {err : Str} (selection : SelectActiveProxies ext libc config prepared.candidates (.error err)) :
    ApplyPreparedProxyRefresh pool prepared (.error err) pool
  | merged {active : List ProxyNode} {checks : Checks DisabledProxy} {calls : List RoundCall}
      (selection : SelectActiveProxies ext libc config prepared.candidates (.ok active))
      (recheck : RecheckDisabledProxies ext libc config (pool.merge env cfg active).1 checks calls) :
    ApplyPreparedProxyRefresh pool prepared
      (.ok ⟨prepared.loaded,(calls.foldl (RoundCall.exec env cfg now) (pool.merge env cfg active).1).state.proxies.length⟩)
      (calls.foldl (RoundCall.exec env cfg now) (pool.merge env cfg active).1)

end Refresh

/-- The health target can be made, and so no refresh fails because of it: there is no other reason to fail. -/
def HealthConfig.NeverFailsLater (ext : TargetExternals) (libc : Libc) (env : Externals) (config : HealthConfig) : Prop :=
  (∃ target, HealthCheckTarget.fromConfig ext config = .ok target) ∧
    ∀ cfg now pool prepared outcome left,
      ApplyPreparedProxyRefresh ext libc env cfg now config pool prepared outcome left → ∃ summary, outcome = .ok summary

section
variable {ext : TargetExternals} {libc : Libc} {env : Externals} {config : HealthConfig}

/-- A refresh fails only for want of a target. -/
lemma refresh_error {cfg : PoolConfig} {now : ℕ} {pool left : Pool} {prepared : PreparedProxyRefresh} {err : Str}
    (h : ApplyPreparedProxyRefresh ext libc env cfg now config pool prepared (.error err) left) :
    HealthCheckTarget.fromConfig ext config = .error err := by
  cases h with
  | failed hselection =>
    cases hselection with
    | checked _ hround =>
      cases hround with
      | invalid _ hrefused => exact hrefused

/-- With a target no refresh fails. -/
lemma neverFailsLater_iff_target : config.NeverFailsLater ext libc env ↔
    ∃ target, HealthCheckTarget.fromConfig ext config = .ok target := by
  refine ⟨And.left,fun htarget => ⟨htarget,fun cfg now pool prepared outcome left hrefresh => ?_⟩⟩
  cases outcome with
  | ok summary => exact ⟨summary,rfl⟩
  | error err =>
    obtain ⟨target,htarget⟩ := htarget
    have hrefused := refresh_error hrefresh
    rw [htarget] at hrefused
    cases hrefused

/-- An accepted configuration never fails later if and only if the host of its URL can be the name of a TLS server where
one is needed. -/
theorem never_fails_later_iff (hext : ext.Documented) (haccepted : config.validate ext.config = .ok ())
    (henabled : config.healthCheckEnabled = true) :
    config.NeverFailsLater ext libc env ↔ config.TargetFits ext := by
  rw [neverFailsLater_iff_target,fromConfig_ok_iff hext haccepted henabled]

/-- By the grammar of the host: over https it has to be a valid DNS name or an address without brackets, and so it has no
bracket and no character that stands in neither. -/
theorem never_fails_later_named {ValidName : Str → Prop} (hext : ext.Documented)
    (haccepted : config.validate ext.config = .ok ()) (henabled : config.healthCheckEnabled = true)
    (hnames : ext.ReadsNames ValidName) {url : Url} {host : Str} (hurl : ext.parseUrl config.healthCheckUrl=some url)
    (hhttps : url.scheme="https".toList) (hhost : url.hostStr=some host) :
    (config.NeverFailsLater ext libc env ↔ ValidName host ∨ (parseIpAddr host).isSome = true) ∧
      ('[' ∈ host → ¬config.NeverFailsLater ext libc env) ∧
      ((∃ c ∈ host, ¬IsNameChar c ∧ ¬IsLiteralChar c) → ¬config.NeverFailsLater ext libc env) := by
  have hfits : config.NeverFailsLater ext libc env ↔ ext.isServerName host = true := by
    rw [neverFailsLater_iff_target,fromConfig_ok_iff hext haccepted henabled,HealthConfig.targetFits_iff hurl hhost]
    exact ⟨fun h => h hhttps,fun h _ => h⟩
  refine ⟨hfits.trans (hnames.serverName host),fun hbracket h => ?_,fun ⟨c,hc,hname,hliteral⟩ h => ?_⟩
  · exact Bool.false_ne_true ((bracket_refused hnames hbracket).symm.trans (hfits.mp h))
  · exact Bool.false_ne_true ((hnames.refuses hc hname hliteral).symm.trans (hfits.mp h))

/-- Without a target a refresh with candidates fails each time, and the pool stays as it is. -/
lemma refresh_refused {err : Str} (hrefused : HealthCheckTarget.fromConfig ext config = .error err)
    (henabled : config.healthCheckEnabled = true) {cfg : PoolConfig} {now : ℕ} {pool left : Pool}
    {prepared : PreparedProxyRefresh} {outcome : Except Str RefreshSummary} (hcandidates : prepared.candidates ≠ [])
    (h : ApplyPreparedProxyRefresh ext libc env cfg now config pool prepared outcome left) :
    outcome = .error err ∧ left=pool := by
  have hselect : ∀ {selection}, SelectActiveProxies ext libc config prepared.candidates selection →
      selection = .error err := by
    intro selection hselection
    cases hselection with
    | unchecked hdisabled =>
      rw [henabled] at hdisabled
      cases hdisabled
    | checked _ hround =>
      cases hround with
      | nothing hempty => exact absurd hempty hcandidates
      | invalid _ hrefused' =>
        rw [hrefused] at hrefused'
        exact congrArg _ (Except.error.inj hrefused').symm
      | round _ hvalid =>
        rw [hrefused] at hvalid
        cases hvalid
  cases h with
  | failed hselection => exact ⟨congrArg _ (Except.error.inj (hselect hselection)),rfl⟩
  | merged hselection _ => cases hselect hselection

end

/-! A host that cannot be the name of a server -/

def bracketedHealth : HealthConfig :=
  {AppConfig.default with healthCheckUrl := "https://[::1]/".toList,healthCheckTlsSkipVerify := false}

lemma bracketedHealth_accepted : bracketedHealth.validate sampleTargetExternals.config = .ok () := by decide

theorem default_never_fails_later : defaultHealth.NeverFailsLater sampleTargetExternals Libc.sample sampleExternals ↔
    defaultHealth.TargetFits sampleTargetExternals :=
  never_fails_later_iff sampleTargetExternals_documented defaultHealth_accepted rfl

/-- The loopback address is accepted as a target, and then no refresh with candidates comes to an end. -/
theorem bracketed_host_fails_later : sampleTargetExternals.Documented ∧
    bracketedHealth.validate sampleTargetExternals.config = .ok () ∧ bracketedHealth.healthCheckEnabled = true ∧
    HealthCheckTarget.fromConfig sampleTargetExternals bracketedHealth=
      .error "health_check_url 的 TLS server name 无效：[::1]".toList ∧
    ¬bracketedHealth.NeverFailsLater sampleTargetExternals Libc.sample sampleExternals ∧
    ∀ cfg now pool prepared outcome left, prepared.candidates ≠ [] →
      ApplyPreparedProxyRefresh sampleTargetExternals Libc.sample sampleExternals cfg now bracketedHealth pool prepared
        outcome left → outcome = .error "health_check_url 的 TLS server name 无效：[::1]".toList ∧ left=pool := by
  have hrefused : HealthCheckTarget.fromConfig sampleTargetExternals bracketedHealth=
      .error "health_check_url 的 TLS server name 无效：[::1]".toList := rfl
  refine ⟨sampleTargetExternals_documented,bracketedHealth_accepted,rfl,hrefused,?_,
    fun cfg now pool prepared outcome left hcandidates => refresh_refused hrefused rfl hcandidates⟩
  rintro ⟨⟨target,htarget⟩,-⟩
  rw [hrefused] at htarget
  cases htarget

end RotatorProxy.Health
