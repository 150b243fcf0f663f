import RotatorProxy.Proxy.Pool
import RotatorProxy.Text.Str

/-! The configuration of the program and its validation. The fields that neither the validation nor
the pool reads are left out. -/
namespace RotatorProxy.Config
open Text Proxy

/-- What the validation asks of a `url::Url`. -/
structure CheckedUrl where
  scheme : Str
  hostStr : Option Str
  deriving DecidableEq

/-- The crates behind the validation. -/
structure ConfigExternals where
  parseUrl : Str → Option CheckedUrl
  /-- `NaiveTime::parse_from_str` with `%H:%M` succeeds. -/
  isDailyTime : Str → Bool
  /-- `tokio::sync::Semaphore::MAX_PERMITS` -/
  maxPermits : ℕ

/-- `usize` has 64 bits, and a path is its text. -/
structure AppConfig where
  maxRetries : UInt64
  connectTimeoutMs : UInt64
  maxConcurrentConnections : UInt64
  subscriptionTimeoutMs : UInt64
  subscriptionUserAgent : Str
  subscriptionProxy : Option Str
  healthCheckEnabled : Bool
  healthCheckUrl : Str
  healthCheckExpectedStatus : Str
  healthCheckAttempts : UInt64
  healthCheckTimeoutMs : UInt64
  healthCheckConcurrency : UInt64
  disabledRecheckConcurrency : UInt64
  runtimeFailureThreshold : UInt64
  runtimeDisableAfterCooldowns : UInt64
  cooldownSeconds : UInt64
  poolStateEnabled : Bool
  poolStatePath : Str
  dailyRefreshTime : Str
  refreshIntervalSeconds : Option UInt64
  mihomoEnabled : Bool
  mihomoWorkDir : Str
  mihomoLogLevel : Str
  mihomoStartupTimeoutMs : UInt64
  mihomoRetireGraceSeconds : UInt64
  mihomoGenerationBatchSize : UInt64

/-- `AppConfig::default` -/
def AppConfig.default : AppConfig where
  maxRetries := 10
  connectTimeoutMs := 10000
  maxConcurrentConnections := 256
  subscriptionTimeoutMs := 15000
  subscriptionUserAgent := ("Mozilla/5.0 (X11; Linux x86_64) AppleWebKit/537.36 (KHTML, like Gecko) "++
    "Chrome/120.0.0.0 Safari/537.36").toList
  subscriptionProxy := none
  healthCheckEnabled := true
  healthCheckUrl := "http://cp.cloudflare.com/generate_204".toList
  healthCheckExpectedStatus := "200-399".toList
  healthCheckAttempts := 3
  healthCheckTimeoutMs := 10000
  healthCheckConcurrency := 256
  disabledRecheckConcurrency := 128
  runtimeFailureThreshold := 3
  runtimeDisableAfterCooldowns := 2
  cooldownSeconds := 300
  poolStateEnabled := true
  poolStatePath := ".rotator-proxy/pool-state.json".toList
  dailyRefreshTime := "04:00".toList
  refreshIntervalSeconds := none
  mihomoEnabled := false
  mihomoWorkDir := ".rotator-proxy/mihomo".toList
  mihomoLogLevel := "warning".toList
  mihomoStartupTimeoutMs := 10000
  mihomoRetireGraceSeconds := 300
  mihomoGenerationBatchSize := 256

def supportedSubscriptionProxySchemes : List Str :=
  ["http".toList,"https".toList,"socks4".toList,"socks4a".toList,"socks5".toList,"socks5h".toList]

/-- `bail!` with a text when the condition holds -/
def bailIf (bad : Bool) (message : Str) : Except Str Unit := if bad then .error message else .ok ()

lemma bailIf_eq_ok {bad : Bool} {message : Str} {u : Unit} : bailIf bad message = .ok u ↔ bad = false := by
  unfold bailIf
  cases bad <;> simp

/-- The part that a field has in the refusal of a zero. -/
def bailIfZero (value : UInt64) (field : String) : Except Str Unit :=
  bailIf (decide (value=0)) (field++" 必须大于 0").toList

structure StatusRange where
  start : UInt16
  stop : UInt16
  deriving DecidableEq

def parseHttpStatusCode (value : Str) : Except Str UInt16 :=
  match parseU16 value with
  | none => .error ("health_check_expected_status 状态码无效：".toList++value)
  | some status =>
    if 100 ≤ status ∧ status ≤ 599 then .ok status
    else .error ("health_check_expected_status 状态码必须在 100-599：".toList++decimal status.toNat)

def parseStatusRange (value : Str) : Except Str StatusRange := do
  let (start,stop) := (splitOnce '-' value).getD (value,value)
  let start ← parseHttpStatusCode start
  let stop ← parseHttpStatusCode stop
  if stop < start then
    .error ("health_check_expected_status 范围起点不能大于终点：".toList++value)
  else .ok ⟨start,stop⟩

def parseHealthCheckExpectedStatus (value : Str) : Except Str (List StatusRange) := do
  let value := trim value
  bailIf (decide (value=[])) "health_check_expected_status 不能为空".toList
  let parts := ((value.splitOn ',').map trim).filter (fun part => decide (part ≠ []))
  let ranges ← parts.mapM parseStatusRange
  bailIf (decide (ranges=[])) "health_check_expected_status 必须包含至少一个状态码或范围".toList
  return ranges

def validateSubscriptionProxy (ext : ConfigExternals) (proxy : Str) : Except Str Unit := do
  let proxy := trim proxy
  bailIf (decide (proxy=[])) "subscription_proxy 设置后不能为空".toList
  match ext.parseUrl proxy with
  | none => .error ("subscription_proxy URL 无效：".toList++proxy)
  | some url =>
    bailIf (!supportedSubscriptionProxySchemes.contains url.scheme)
      ("subscription_proxy 只支持这些协议：".toList++
        ", ".toList.intercalate supportedSubscriptionProxySchemes)
    bailIf url.hostStr.isNone "subscription_proxy 必须包含 host".toList

namespace AppConfig
variable (ext : ConfigExternals) (config : AppConfig)

/-- The checks that are made only when the health check is on. -/
def validateHealthCheck : Except Str Unit := do
  match ext.parseUrl config.healthCheckUrl with
  | none => .error ("health_check_url 无效：".toList++config.healthCheckUrl)
  | some url =>
    bailIf (decide (url.scheme ≠ "http".toList ∧ url.scheme ≠ "https".toList))
      "health_check_url 只支持 http:// 或 https:// URL".toList
    bailIf url.hostStr.isNone "health_check_url 必须包含 host".toList
  let _ ← parseHealthCheckExpectedStatus config.healthCheckExpectedStatus
  bailIfZero config.healthCheckAttempts "health_check_attempts"
  bailIfZero config.healthCheckTimeoutMs "health_check_timeout_ms"
  bailIfZero config.healthCheckConcurrency "health_check_concurrency"

/-- The checks that are made only when mihomo is on. -/
def validateMihomo : Except Str Unit := do
  bailIf (decide (config.mihomoWorkDir=[])) "mihomo_enabled=true 时 mihomo_work_dir 不能为空".toList
  bailIf (decide (trim config.mihomoLogLevel=[])) "mihomo_enabled=true 时 mihomo_log_level 不能为空".toList
  bailIfZero config.mihomoStartupTimeoutMs "mihomo_startup_timeout_ms"
  bailIfZero config.mihomoRetireGraceSeconds "mihomo_retire_grace_seconds"
  bailIfZero config.mihomoGenerationBatchSize "mihomo_generation_batch_size"

def validate : Except Str Unit := do
  bailIfZero config.connectTimeoutMs "connect_timeout_ms"
  bailIfZero config.maxConcurrentConnections "max_concurrent_connections"
  bailIf (decide (ext.maxPermits < config.maxConcurrentConnections.toNat))
    ("max_concurrent_connections 不能大于 ".toList++decimal ext.maxPermits)
  bailIfZero config.subscriptionTimeoutMs "subscription_timeout_ms"
  bailIf (decide (trim config.subscriptionUserAgent=[])) "subscription_user_agent 不能为空".toList
  match config.subscriptionProxy with
  | some proxy => validateSubscriptionProxy ext proxy
  | none => pure ()
  if config.healthCheckEnabled then config.validateHealthCheck ext
  bailIfZero config.disabledRecheckConcurrency "disabled_recheck_concurrency"
  bailIfZero config.runtimeFailureThreshold "runtime_failure_threshold"
  bailIfZero config.runtimeDisableAfterCooldowns "runtime_disable_after_cooldowns"
  bailIfZero config.cooldownSeconds "cooldown_seconds"
  bailIf (config.poolStateEnabled && decide (config.poolStatePath=[]))
    "pool_state_enabled=true 时 pool_state_path 不能为空".toList
  bailIf (config.refreshIntervalSeconds.any (fun seconds => decide (seconds=0)))
    "refresh_interval_seconds 必须大于 0".toList
  if config.refreshIntervalSeconds.isNone then
    bailIf (!ext.isDailyTime config.dailyRefreshTime)
      ("daily_refresh_time 必须使用 HH:MM 格式，当前值为 ".toList++config.dailyRefreshTime)
  if config.mihomoEnabled then config.validateMihomo

/-- The ticks of the pool are nanoseconds. -/
def ticksPerSecond : ℕ := 10^9

/-- The settings that `main` gives its pool. -/
def poolConfig : PoolConfig :=
  .new config.maxRetries.toNat config.runtimeFailureThreshold.toNat
    (config.cooldownSeconds.toNat*ticksPerSecond) config.runtimeDisableAfterCooldowns.toNat
    config.poolStateEnabled

end AppConfig
end RotatorProxy.Config
