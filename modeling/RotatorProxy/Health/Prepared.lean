import RotatorProxy.Config.Startup
import RotatorProxy.Health.Refresh
import RotatorProxy.Link.Loading
import RotatorProxy.Mihomo.Keys
import Mathlib.Algebra.Order.Monoid.Prod

/-! `prepare_proxy_refresh`: from the files of the sources to the candidates of a refresh. -/
namespace RotatorProxy.Health
open Text Proxy Config Library Link Mihomo

structure MeowBuildResult where
  nodes : List ProxyNode
  fallback : List MihomoProxyConfig

def buildMeowNodes (meow : MeowExternals) (proxies : List MihomoProxyConfig) : MeowBuildResult :=
  proxies.foldl (fun result proxy =>
    match buildMeowNode meow proxy with
    | .ok (node,_) => {result with nodes := result.nodes++[.meow node]}
    | .error _ => {result with fallback := result.fallback++[proxy]}) ⟨[],[]⟩

section
variable (env : SourceExternals) (files : SourceFiles) (ext : ClientExternals) (meow : MeowExternals)

/-- What a loaded set is prepared as. -/
def PreparedProxyRefresh.fromLoaded (loadedSet : LoadedProxySet) : PreparedProxyRefresh :=
  let meowResult := buildMeowNodes meow loadedSet.mihomo
  ⟨loadedSet.native.length+loadedSet.mihomo.length,loadedSet.native++meowResult.nodes⟩

/-- With so many rounds for the queue of each file -/
def prepareProxyRefresh (config : AppConfig) (proxyDirs : List Str) (rounds : ℕ) : Except Str PreparedProxyRefresh :=
  (loadProxiesFromPaths env files ext proxyDirs (.fromConfig config) rounds).map (.fromLoaded meow)

end

/-! What the steps give -/

/-- The node of a complex proxy that the native backend takes. -/
def nativeNode (meow : MeowExternals) (proxy : MihomoProxyConfig) : Option ProxyNode :=
  match buildMeowNode meow proxy with
  | .ok (node,_) => some (.meow node)
  | .error _ => none

lemma buildMeowNodes_foldl (meow : MeowExternals) (proxies : List MihomoProxyConfig) (result : MeowBuildResult) :
    (proxies.foldl (fun result proxy =>
      match buildMeowNode meow proxy with
      | .ok (node,_) => {result with nodes := result.nodes++[.meow node]}
      | .error _ => {result with fallback := result.fallback++[proxy]}) result).nodes=
      result.nodes++proxies.filterMap (nativeNode meow) := by
  induction proxies generalizing result with
  | nil => exact (List.append_nil _).symm
  | cons proxy proxies ih =>
    rw [List.foldl_cons,ih,List.filterMap_cons,nativeNode]
    cases buildMeowNode meow proxy with
    | error err => rfl
    | ok built => exact List.append_assoc _ [ProxyNode.meow built.1] _

lemma buildMeowNodes_nodes (meow : MeowExternals) (proxies : List MihomoProxyConfig) :
    (buildMeowNodes meow proxies).nodes=proxies.filterMap (nativeNode meow) :=
  buildMeowNodes_foldl meow proxies ⟨[],[]⟩

lemma validate_subscriptionProxy {ext : ConfigExternals} {config : AppConfig} (h : config.validate ext = .ok ())
    {proxy : Str} (hproxy : config.subscriptionProxy=some proxy) : validateSubscriptionProxy ext proxy = .ok () := by
  unfold AppConfig.validate at h
  simp only [bind,bind_eq_ok] at h
  obtain ⟨_,-,_,-,_,-,_,-,_,-,h⟩ := h
  simp only [hproxy] at h
  obtain ⟨_,hvalid,-⟩ := bind_eq_ok.mp h
  exact hvalid

section
variable {env : SourceExternals} {files : SourceFiles} {ext : ClientExternals} {meow : MeowExternals} {config : AppConfig}

/-- The candidates of a set of proxies, in whatever order. -/
def candidatesOf (meow : MeowExternals) (loaded : Multiset ProxyNode × Multiset MihomoProxyConfig) : Multiset ProxyNode :=
  loaded.1+loaded.2.filterMap (nativeNode meow)

lemma fromLoaded_candidates (proxies : LoadedProxySet) :
    ((PreparedProxyRefresh.fromLoaded meow proxies).candidates : Multiset ProxyNode)=candidatesOf meow (nodesOf proxies) := by
  rw [PreparedProxyRefresh.fromLoaded,buildMeowNodes_nodes]
  rfl

lemma candidatesOf_le {less more : Multiset ProxyNode × Multiset MihomoProxyConfig} (h : less ≤ more) :
    candidatesOf meow less ≤ candidatesOf meow more :=
  add_le_add h.1 (Multiset.filterMap_le_filterMap _ h.2)

/-- The candidates are those of everything the files lead to, each as often as it occurs there. A refresh has its candidates
when there is a client, and every file that is found can be read. -/
theorem prepared_from_sources (hvalid : config.validate ext.toConfigExternals = .ok ())
    (hshrinks : Base64Shrinks env.toLinkExternals) (proxyDirs : List Str) : ∃ enough outcome,
    (∀ rounds, enough ≤ rounds → prepareProxyRefresh env files ext meow config proxyDirs rounds=outcome) ∧
    ((∃ prepared, outcome = .ok prepared) ↔ ext.Builds config ∧ ∃ items, files.HaveRead proxyDirs items) ∧
    ∀ prepared, outcome = .ok prepared → ∃ items loaded, files.HaveRead proxyDirs items ∧
      Unfolds (Below env) (QueuedContent.yields env) items loaded ∧
      prepared.loaded=loaded.1.card+loaded.2.card ∧ (prepared.candidates : Multiset ProxyNode)=candidatesOf meow loaded := by
  have hclient := buildSubscriptionClient_ok fun _ hproxy => validate_subscriptionProxy hvalid hproxy
  obtain ⟨enough,outcome,hrun,hiff,hok⟩ := loadProxiesFromPaths_settles hshrinks proxyDirs
  refine ⟨enough,outcome.map (.fromLoaded meow),fun rounds hle => ?_,?_,?_⟩
  · rw [prepareProxyRefresh,hrun rounds hle]
  · rw [← hclient,← hiff]
    exact exists_map_ok
  · intro prepared hprepared
    obtain ⟨proxies,rfl,rfl⟩ := map_eq_ok.mp hprepared
    obtain ⟨items,hitems,hunfolds⟩ := hok proxies rfl
    exact ⟨items,nodesOf proxies,hitems,hunfolds,rfl,fromLoaded_candidates proxies⟩

/-- The one file has a single line: a proxy. -/
def sampleFiles : SourceFiles where
  pathExists _ := true
  isFile _ := true
  isDir _ := false
  readDir _ := .error []
  readToString _ := .ok CredentialLink.aloneLink.text
  pathLe _ _ := true

/-- YAML reads a line without a colon and a space as a text. -/
def sampleSources : SourceExternals := {echoExternals with yamlFromStr := fun text => some (.string text)}

def sampleClient : ClientExternals := {sampleConfigExternals with
  redactProxyUrl := fun _ => []
  proxyAll := fun _ => true
  clientBuild := fun _ _ _ => true}

lemma sampleFiles_read : ∃ items, sampleFiles.HaveRead ["proxies.txt".toList] items := by
  have hfile : IsReadAs sampleFiles "proxies.txt".toList
      [.localFile CredentialLink.aloneLink.text "proxies.txt".toList] := ⟨_,rfl,rfl⟩
  have hread : Listed (IsReadAs sampleFiles) (["proxies.txt".toList].mergeSort sampleFiles.pathLe)
      [.localFile CredentialLink.aloneLink.text "proxies.txt".toList] := by
    rw [List.mergeSort_singleton]
    exact .cons hfile .nil
  have hpath : IsFilledWith sampleFiles "proxies.txt".toList
      [.localFile CredentialLink.aloneLink.text "proxies.txt".toList] := ⟨_,rfl,hread⟩
  exact ⟨_,.cons hpath .nil⟩

theorem prepared_from_sample : ∃ enough prepared, ∀ rounds, enough ≤ rounds →
    prepareProxyRefresh sampleSources sampleFiles sampleClient plainMeowExternals .default ["proxies.txt".toList] rounds =
      .ok prepared := by
  obtain ⟨enough,outcome,hrun,hiff,-⟩ := @prepared_from_sources sampleSources sampleFiles sampleClient plainMeowExternals
    .default (by decide) echoExternals_shrinks ["proxies.txt".toList]
  obtain ⟨prepared,rfl⟩ := hiff.mpr ⟨⟨nofun,rfl⟩,sampleFiles_read⟩
  exact ⟨enough,prepared,hrun⟩

/-- Requests that fail do not fail the refresh, and cost no candidate that is not below one of them: a refresh has all the
candidates that it has when still fewer requests are answered. -/
theorem failed_subscriptions_cost_their_own {fetch : List Str → Str → Option Str}
    (hshrinks : Base64Shrinks env.toLinkExternals) (hfetch : env.AnsweredAtMost fetch) (proxyDirs : List Str) :
    ∃ enough outcome outcome',
    (∀ rounds, enough ≤ rounds → prepareProxyRefresh env files ext meow config proxyDirs rounds=outcome ∧
      prepareProxyRefresh (env.answering fetch) files ext meow config proxyDirs rounds=outcome') ∧
    ((∃ more, outcome = .ok more) ↔ ∃ less, outcome' = .ok less) ∧
    ∀ more less, outcome = .ok more → outcome' = .ok less →
      less.loaded ≤ more.loaded ∧ (less.candidates : Multiset ProxyNode) ≤ more.candidates := by
  have hshrinks' : Base64Shrinks (env.answering fetch).toLinkExternals := hshrinks
  obtain ⟨enough,outcome,hrun,hiff,hok⟩ := loadProxiesFromPaths_settles hshrinks proxyDirs
  obtain ⟨enough',outcome',hrun',hiff',hok'⟩ := loadProxiesFromPaths_settles hshrinks' proxyDirs
  refine ⟨max enough enough',outcome.map (.fromLoaded meow),outcome'.map (.fromLoaded meow),fun rounds hle => ⟨?_,?_⟩,?_,?_⟩
  · rw [prepareProxyRefresh,hrun rounds (le_of_max_le_left hle)]
  · rw [prepareProxyRefresh,hrun' rounds (le_of_max_le_right hle)]
  · exact exists_map_ok.trans ((hiff.trans hiff'.symm).trans exists_map_ok.symm)
  · intro more less hmore hless
    obtain ⟨proxies,rfl,rfl⟩ := map_eq_ok.mp hmore
    obtain ⟨proxies',rfl,rfl⟩ := map_eq_ok.mp hless
    obtain ⟨items,hitems,hunfolds⟩ := hok proxies rfl
    obtain ⟨items',hitems',hunfolds'⟩ := hok' proxies' rfl
    cases hitems.unique hitems'
    have hle : nodesOf proxies' ≤ nodesOf proxies :=
      hunfolds'.le (fun _ _ _ hless hmore => hless.sublist hfetch hmore) hunfolds (.refl items)
    rw [fromLoaded_candidates,fromLoaded_candidates]
    exact ⟨add_le_add (Multiset.card_le_card hle.1) (Multiset.card_le_card hle.2),candidatesOf_le hle⟩

end

theorem failed_subscriptions_sample : ∃ enough outcome outcome',
    (∀ rounds, enough ≤ rounds →
      prepareProxyRefresh sampleSources sampleFiles sampleClient plainMeowExternals .default ["proxies.txt".toList] rounds=
        outcome ∧
      prepareProxyRefresh (sampleSources.answering fun _ _ => none) sampleFiles sampleClient plainMeowExternals .default
        ["proxies.txt".toList] rounds=outcome') ∧
    ((∃ more, outcome = .ok more) ↔ ∃ less, outcome' = .ok less) ∧
    ∀ more less, outcome = .ok more → outcome' = .ok less →
      less.loaded ≤ more.loaded ∧ (less.candidates : Multiset ProxyNode) ≤ more.candidates :=
  failed_subscriptions_cost_their_own echoExternals_shrinks (fun _ _ _ => .inl rfl) _

end RotatorProxy.Health
