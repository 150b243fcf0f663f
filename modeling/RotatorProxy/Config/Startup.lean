import RotatorProxy.Config.AppConfig
import RotatorProxy.Proxy.Panics

/-! The pool that `main` sets up from an accepted configuration. The validation bounds the cooldown from
below only, so an accepted one can end later than any clock can say. -/
namespace RotatorProxy.Config
open Text Proxy

/-- The pool of `main`: built from the state file alone, with every batch of nodes merged into it. -/
def AppConfig.startPool (env : Externals) (config : AppConfig) (file : StateFile)
    (batches : List (List ProxyNode)) : Pool :=
  batches.foldl (fun p proxies => (p.merge env config.poolConfig proxies).1)
    (Pool.withRuntimeFailurePolicyAndState env config.poolConfig [] file)

theorem startPool_sane (env : Externals) (config : AppConfig) (file : StateFile)
    (batches : List (List ProxyNode)) : (config.startPool env file batches).Sane config.poolConfig := by
  have hbuilt := Pool.built_sane env config.poolConfig [] file
  unfold AppConfig.startPool
  generalize Pool.withRuntimeFailurePolicyAndState env config.poolConfig [] file=p at hbuilt ⊢
  induction batches generalizing p with
  | nil => exact hbuilt
  | cons proxies batches ih => exact ih _ (hbuilt.merge env proxies)

/-- The settings are words, and so are the counts that they bound. -/
lemma poolConfig_words (config : AppConfig) : config.poolConfig.runtimeFailureThreshold < wordLimit ∧
    config.poolConfig.runtimeDisableAfterCooldowns < wordLimit := by
  have hthreshold := config.runtimeFailureThreshold.toNat_lt
  have hdisable := config.runtimeDisableAfterCooldowns.toNat_lt
  unfold AppConfig.poolConfig PoolConfig.new wordLimit
  dsimp only
  omega

/-- In a run of calls on the pool of a configuration no call panics exactly when each of them fits: the
end of a cooldown that it starts lies within what an `Instant` can hold. Then no lock is poisoned, and every
call has done what it does. -/
theorem never_panics_iff (env : Externals) (config : AppConfig) (file : StateFile)
    (batches : List (List ProxyNode)) (calls : List (ℕ × PoolCall)) :
    ((∀ outcome ∈ ((SharedPool.fresh (config.startPool env file batches)).runCalls env config.poolConfig
        calls).2, outcome=none) ↔
      ∀ before call after, calls=before++call::after → CallFits config.poolConfig call.1
        ((config.startPool env file batches).calls env config.poolConfig before) call.2) ∧
    ((∀ outcome ∈ ((SharedPool.fresh (config.startPool env file batches)).runCalls env config.poolConfig
        calls).2, outcome=none) →
      ((SharedPool.fresh (config.startPool env file batches)).runCalls env config.poolConfig calls).1=
        .fresh ((config.startPool env file batches).calls env config.poolConfig calls)) := by
  obtain ⟨hthreshold,hdisable⟩ := poolConfig_words config
  exact SharedPool.runCalls_iff (startPool_sane env config file batches) hthreshold hdisable env calls

/-! The longest cooldown that a configuration file can hold -/

def longCooldown : AppConfig :=
  {AppConfig.default with runtimeFailureThreshold := 1,cooldownSeconds := 9223372036854775807}

def sampleConfigExternals : ConfigExternals where
  parseUrl _ := some ⟨"http".toList,some "cp.cloudflare.com".toList⟩
  isDailyTime _ := true
  maxPermits := 2^61-1

def otherNode : ProxyNode := .http ⟨"127.0.0.1".toList,2⟩ none

def sampleNext : PoolCall := .next (fun _ => .identity) ⟨[],1,false⟩

/-- The first failure, a second after the clock has started, panics with its shard locked. A report of
another node in the shard panics too, then the next scan, and from then on every scan. -/
theorem cooldown_end_panics :
    longCooldown.validate sampleConfigExternals = .ok () ∧
      ((SharedPool.fresh (longCooldown.startPool sampleExternals .absent [[sampleNode,otherNode]])).runCalls
        sampleExternals longCooldown.poolConfig
        [(10^9,.reportFailure (.proxy (.fromNode sampleNode))),
          (10^9,.reportSuccess (.proxy (.fromNode otherNode))),(10^9,sampleNext),(2*10^9,sampleNext)]).2=
        [some .instantOverflow,some .shardPoisoned,some .shardPoisoned,some .selectionPoisoned] := by
  refine ⟨by decide,by decide⟩

end RotatorProxy.Config
