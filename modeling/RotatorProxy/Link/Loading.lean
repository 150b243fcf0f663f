import RotatorProxy.Config.AppConfig
import RotatorProxy.Library.Outcome
import RotatorProxy.Link.Expansion

/-! `load_proxies_from_paths`: the files of all source paths, one after the other, each with all that it leads to. What
comes of them is the sum over a tree, whose roots are the files. -/
namespace RotatorProxy.Link
open Text Proxy Mihomo Library Config

/-! The client that gets subscriptions -/

structure SubscriptionOptions where
  timeoutMs : UInt64
  userAgent : Str
  proxy : Option Str

/-- `SubscriptionOptions::from` -/
def SubscriptionOptions.fromConfig (config : AppConfig) : SubscriptionOptions :=
  ⟨config.subscriptionTimeoutMs,config.subscriptionUserAgent,config.subscriptionProxy⟩

structure ClientExternals extends ConfigExternals where
  /-- `redact_proxy_url`, which words an error -/
  redactProxyUrl : Str → Str
  /-- `reqwest::Proxy::all` takes the URL. -/
  proxyAll : Str → Bool
  /-- `ClientBuilder::build` succeeds with this time limit, user agent and proxy. -/
  clientBuild : UInt64 → Str → Option Str → Bool

def validateReqwestProxyUrl (ext : ConfigExternals) (proxy : Str) : Except Str Unit := do
  bailIf (decide (proxy=[])) "subscription_proxy 不能为空".toList
  match ext.parseUrl proxy with
  | none => .error ("subscription_proxy URL 无效：".toList++proxy)
  | some url =>
    bailIf (!supportedSubscriptionProxySchemes.contains url.scheme)
      ("subscription_proxy 协议不受支持：".toList++url.scheme)
    bailIf url.hostStr.isNone "subscription_proxy 必须包含 host".toList

def useProxy (ext : ClientExternals) (proxy : Str) : Except Str Unit := do
  validateReqwestProxyUrl ext.toConfigExternals proxy
  bailIf (!ext.proxyAll proxy) ("subscription_proxy URL 无效：".toList++ext.redactProxyUrl proxy)

def buildSubscriptionClient (ext : ClientExternals) (options : SubscriptionOptions) : Except Str Unit := do
  let proxy := options.proxy.map trim
  proxy.forM (useProxy ext)
  bailIf (!ext.clientBuild options.timeoutMs options.userAgent proxy) "构建订阅 HTTP 客户端失败".toList

lemma validateReqwestProxyUrl_ok {ext : ConfigExternals} {proxy : Str}
    (h : validateSubscriptionProxy ext proxy = .ok ()) : validateReqwestProxyUrl ext (trim proxy) = .ok () := by
  obtain ⟨_,hnonempty,h⟩ := bind_eq_ok.mp h
  refine bind_eq_ok.mpr ⟨(),bailIf_eq_ok.mpr (bailIf_eq_ok.mp hnonempty),?_⟩
  cases hurl : ext.parseUrl (trim proxy) with
  | none => simp [hurl] at h
  | some url =>
    rw [hurl] at h
    obtain ⟨_,hscheme,hhost⟩ := bind_eq_ok.mp h
    exact bind_eq_ok.mpr ⟨(),bailIf_eq_ok.mpr (bailIf_eq_ok.mp hscheme),hhost⟩

lemma useProxy_ok {ext : ClientExternals} {proxy : Str}
    (h : validateSubscriptionProxy ext.toConfigExternals proxy = .ok ()) :
    useProxy ext (trim proxy) = .ok () ↔ ext.proxyAll (trim proxy) = true := by
  refine bind_eq_ok.trans ⟨fun ⟨_,_,hall⟩ => ?_,fun hall => ⟨(),validateReqwestProxyUrl_ok h,?_⟩⟩
  · rw [bailIf_eq_ok,Bool.not_eq_false'] at hall
    exact hall
  · rw [bailIf_eq_ok,Bool.not_eq_false']
    exact hall

/-- There is an HTTP client, as far as the HTTP crate decides it. -/
def ClientExternals.Builds (ext : ClientExternals) (config : AppConfig) : Prop :=
  (∀ proxy, config.subscriptionProxy=some proxy → ext.proxyAll (trim proxy) = true) ∧
    ext.clientBuild config.subscriptionTimeoutMs config.subscriptionUserAgent (config.subscriptionProxy.map trim) = true

/-- With an accepted proxy it is up to the crate alone whether there is a client. -/
lemma buildSubscriptionClient_ok {ext : ClientExternals} {config : AppConfig}
    (hvalid : ∀ proxy, config.subscriptionProxy=some proxy →
      validateSubscriptionProxy ext.toConfigExternals proxy = .ok ()) :
    buildSubscriptionClient ext (.fromConfig config) = .ok () ↔ ext.Builds config := by
  refine bind_eq_ok.trans ?_
  unfold ClientExternals.Builds SubscriptionOptions.fromConfig
  simp only [bailIf_eq_ok,Bool.not_eq_false']
  cases hproxy : config.subscriptionProxy with
  | none => exact ⟨fun ⟨_,_,hbuild⟩ => ⟨nofun,hbuild⟩,fun ⟨_,hbuild⟩ => ⟨(),rfl,hbuild⟩⟩
  | some proxy =>
    have huse : useProxy ext (trim proxy) = .ok () ↔ ext.proxyAll (trim proxy) = true := useProxy_ok (hvalid proxy hproxy)
    refine ⟨fun ⟨_,hused,hbuild⟩ => ⟨?_,hbuild⟩,fun ⟨hall,hbuild⟩ => ⟨(),huse.mpr (hall proxy rfl),hbuild⟩⟩
    rintro _ ⟨rfl⟩
    exact huse.mp hused

/-! The files -/

/-- The files under the source paths. A path is its text, and an error is its outermost message. -/
structure SourceFiles where
  pathExists : Str → Bool
  isFile : Str → Bool
  isDir : Str → Bool
  /-- the paths of the entries, each of which may fail on its own -/
  readDir : Str → Except Str (List (Except Str Str))
  readToString : Str → Except Str Str
  /-- the order of `PathBuf` -/
  pathLe : Str → Str → Bool

variable (env : SourceExternals) (files : SourceFiles)

def collectSourceFiles (path : Str) : Except Str (List Str) :=
  if !files.pathExists path then .ok []
  else if files.isFile path then .ok [path]
  else if !files.isDir path then .ok []
  else match files.readDir path with
    | .error _ => .error ("读取目录失败：".toList++path)
    | .ok entries => (entries.mapM id).map (·.filter files.isFile)

/-- Everything that was loaded, and the URLs that were requested for it. -/
structure Loading where
  proxies : LoadedProxySet
  requested : List Str

/-- The servers when these requests have been made before -/
def SourceExternals.after (earlier : List Str) : SourceExternals :=
  {env with fetchSubscription := fun past => env.fetchSubscription (earlier++past)}

def Loading.add (s : Loading) (expansion : Expansion) : Loading :=
  ⟨s.proxies.extend expansion.proxies,s.requested++expansion.requests.map Request.url⟩

/-- One file, with so many rounds for its queue. -/
def loadFile (rounds : ℕ) (s : Loading) (file : Str) : Except Str Loading :=
  match files.readToString file with
  | .error _ => .error ("读取代理来源失败：".toList++file)
  | .ok content => .ok (s.add (parseContentQueue (env.after s.requested) content file rounds))

def loadPath (rounds : ℕ) (s : Loading) (path : Str) : Except Str Loading := do
  let found ← collectSourceFiles files path
  (found.mergeSort files.pathLe).foldlM (loadFile env files rounds) s

def loadProxiesFromPaths (ext : ClientExternals) (paths : List Str) (options : SubscriptionOptions) (rounds : ℕ) :
    Except Str LoadedProxySet := do
  buildSubscriptionClient ext options
  let s ← paths.foldlM (loadPath env files rounds) ⟨.empty,[]⟩
  return s.proxies

/-! The tree of one file -/

/-- The nodes of a set, in whatever order -/
def nodesOf (proxies : LoadedProxySet) : Multiset ProxyNode × Multiset MihomoProxyConfig :=
  (proxies.native,proxies.mihomo)

/-- The nodes that stand in a content itself. -/
def QueuedContent.yields (item : QueuedContent) : Multiset ProxyNode × Multiset MihomoProxyConfig :=
  nodesOf (parseLocalContent env item.content item.allowSubscriptions).proxies

/-- What comes of the request: the body, unless there was an error. -/
def IsAnswer (item : QueuedContent) (url : Str) (answer : Option QueuedContent) : Prop :=
  ∃ past, answer=(env.fetchSubscription past url).map (item.fetched url)

def QueuedContent.nextUrls (item : QueuedContent) : List Str :=
  if maxSubscriptionDepth ≤ item.depth then []
  else (parseLocalContent env item.content item.allowSubscriptions).subscriptionUrls

/-- The contents below a content: its decoded text, or what its subscriptions answer. -/
def Below (item : QueuedContent) (new : List QueuedContent) : Prop :=
  ∃ answers, List.Forall₂ (IsAnswer env item) (item.nextUrls env) answers ∧
    new=(parseLocalContent env item.content item.allowSubscriptions).decodedContents.map item.decoded++
      answers.reduceOption

section
variable {env}

lemma nodesOf_extend (proxies other : LoadedProxySet) : nodesOf (proxies.extend other)=nodesOf proxies+nodesOf other :=
  Prod.ext (Multiset.coe_add _ _).symm (Multiset.coe_add _ _).symm

variable (env) in
lemma fetch_answer (item : QueuedContent) (s : Expansion) (url : Str) : ∃ answer, IsAnswer env item url answer ∧
    (Expansion.fetch env item s url).queue=s.queue++answer.toList ∧
      (Expansion.fetch env item s url).proxies=s.proxies := by
  refine ⟨_,⟨s.requests.map Request.url,rfl⟩,?_⟩
  unfold Expansion.fetch
  dsimp only
  cases env.fetchSubscription (s.requests.map Request.url) url with
  | none => exact ⟨(List.append_nil _).symm,rfl⟩
  | some body => exact ⟨rfl,rfl⟩

lemma foldl_fetch_answers (item : QueuedContent) (urls : List Str) (s : Expansion) : ∃ answers,
    List.Forall₂ (IsAnswer env item) urls answers ∧
      (urls.foldl (Expansion.fetch env item) s).queue=s.queue++answers.reduceOption ∧
      (urls.foldl (Expansion.fetch env item) s).proxies=s.proxies := by
  induction urls generalizing s with
  | nil => exact ⟨[],.nil,(List.append_nil _).symm,rfl⟩
  | cons url urls ih =>
    obtain ⟨answer,hanswer,hqueue,hproxies⟩ := fetch_answer env item s url
    obtain ⟨answers,hanswers,hqueues,hsame⟩ := ih (Expansion.fetch env item s url)
    refine ⟨answer::answers,.cons hanswer hanswers,?_,hsame.trans hproxies⟩
    rw [List.foldl_cons,hqueues,hqueue,List.append_assoc]
    cases answer <;> rfl

lemma worksOff : WorksOff (Expansion.step env) Expansion.queue (fun s => nodesOf s.proxies) (Below env)
    (QueuedContent.yields env) where
  idle s h := by
    unfold Expansion.step
    rw [h]
    exact ⟨rfl,h⟩
  takes s item rest h := by
    unfold Expansion.step Below QueuedContent.nextUrls
    rw [h]
    dsimp only
    split_ifs with hdepth
    · exact ⟨_,⟨[],.nil,(List.append_nil _).symm⟩,rfl,nodesOf_extend _ _⟩
    · obtain ⟨answers,hanswers,hqueue,hproxies⟩ := foldl_fetch_answers item _ _
      exact ⟨_,⟨answers,hanswers,rfl⟩,hqueue.trans (List.append_assoc _ _ _),
        (congrArg nodesOf hproxies).trans (nodesOf_extend _ _)⟩

/-- What was requested before does not matter to what may be answered. -/
lemma Below.of_after {earlier : List Str} {item : QueuedContent} {new : List QueuedContent}
    (h : Below (env.after earlier) item new) : Below env item new := by
  obtain ⟨answers,hanswers,hnew⟩ := h
  exact ⟨answers,hanswers.imp fun _ _ ⟨past,hanswer⟩ => ⟨earlier++past,hanswer⟩,hnew⟩

end

/-! Servers that fail -/

/-- The same, but with these servers -/
def SourceExternals.answering (env : SourceExternals) (fetch : List Str → Str → Option Str) : SourceExternals :=
  {env with fetchSubscription := fetch}

/-- Whenever a request is answered, it is as these servers always answer it. -/
def SourceExternals.AnsweredAtMost (env : SourceExternals) (fetch : List Str → Str → Option Str) : Prop :=
  ∀ past past' url, fetch past url=none ∨ fetch past url=env.fetchSubscription past' url

lemma answers_sublist {env : SourceExternals} {fetch : List Str → Str → Option Str} (hfetch : env.AnsweredAtMost fetch)
    {item : QueuedContent} {urls : List Str} {answers answers' : List (Option QueuedContent)}
    (h' : List.Forall₂ (IsAnswer (env.answering fetch) item) urls answers')
    (h : List.Forall₂ (IsAnswer env item) urls answers) : answers'.reduceOption.Sublist answers.reduceOption := by
  induction h' generalizing answers with
  | nil =>
    cases h
    exact .refl _
  | @cons url _ urls answers' hhead' _ ih =>
    cases h with
    | @cons _ _ _ answers hhead htail =>
      obtain ⟨past,rfl⟩ := hhead'
      obtain ⟨past',rfl⟩ := hhead
      have hrest := ih htail
      obtain hnone | hsame : fetch past url=none ∨ fetch past url=env.fetchSubscription past' url := hfetch past past' url
      · change (List.reduceOption ((fetch past url).map (item.fetched url)::answers')).Sublist _
        rw [hnone]
        cases env.fetchSubscription past' url with
        | none => exact hrest
        | some body => exact hrest.cons _
      · change (List.reduceOption ((fetch past url).map (item.fetched url)::answers')).Sublist _
        rw [hsame]
        cases env.fetchSubscription past' url with
        | none => exact hrest
        | some body => exact hrest.cons_cons _

lemma Below.sublist {env : SourceExternals} {fetch : List Str → Str → Option Str} (hfetch : env.AnsweredAtMost fetch)
    {item : QueuedContent} {new more : List QueuedContent} (h' : Below (env.answering fetch) item new)
    (h : Below env item more) : new.Sublist more := by
  obtain ⟨answers',hanswers',rfl⟩ := h'
  obtain ⟨answers,hanswers,rfl⟩ := h
  exact (List.Sublist.refl _).append (answers_sublist hfetch hanswers' hanswers)

/-! All files -/

/-- The elements of a list stand for these parts, one after the other. -/
inductive Listed {α β : Type} (isPart : α → List β → Prop) : List α → List β → Prop
  | nil : Listed isPart [] []
  | cons {a : α} {as : List α} {part items : List β} (head : isPart a part) (tail : Listed isPart as items) :
    Listed isPart (a::as) (part++items)

lemma Listed.unique {α β : Type} {isPart : α → List β → Prop}
    (hpart : ∀ a part part', isPart a part → isPart a part' → part=part') {as : List α} {items items' : List β}
    (h : Listed isPart as items) (h' : Listed isPart as items') : items=items' := by
  induction h generalizing items' with
  | nil =>
    cases h'
    rfl
  | cons head _ ih =>
    cases h' with
    | cons head' tail' => rw [hpart _ _ _ head head',ih tail']

/-- The file can be read: it stands first in a queue of its own. -/
def IsReadAs (file : Str) (part : List QueuedContent) : Prop :=
  ∃ content, files.readToString file = .ok content ∧ part=[.localFile content file]

/-- The files of a path can be found and read. -/
def IsFilledWith (path : Str) (part : List QueuedContent) : Prop :=
  ∃ found, collectSourceFiles files path = .ok found ∧ Listed (IsReadAs files) (found.mergeSort files.pathLe) part

/-- Every source path stands for the files that are found and read there. -/
def SourceFiles.HaveRead (paths : List Str) (items : List QueuedContent) : Prop :=
  Listed (IsFilledWith files) paths items

lemma SourceFiles.HaveRead.unique {files : SourceFiles} {paths : List Str} {items items' : List QueuedContent}
    (h : files.HaveRead paths items) (h' : files.HaveRead paths items') : items=items' := by
  have hread : ∀ file part part', IsReadAs files file part → IsReadAs files file part' → part=part' := by
    rintro file _ _ ⟨content,hcontent,rfl⟩ ⟨content',hcontent',rfl⟩
    cases hcontent.symm.trans hcontent'
    rfl
  refine Listed.unique ?_ h h'
  rintro path part part' ⟨found,hfound,hpart⟩ ⟨found',hfound',hpart'⟩
  cases hfound.symm.trans hfound'
  exact hpart.unique hread hpart'

/-- With enough rounds the outcome is the same. It is a success if all files can be read, and then it adds the sum over
their trees. -/
def Settles (run : ℕ → Except Str Loading) (s : Loading) (isPart : List QueuedContent → Prop) : Prop :=
  ∃ enough outcome, (∀ rounds, enough ≤ rounds → run rounds=outcome) ∧
    ((∃ t, outcome = .ok t) ↔ ∃ items, isPart items) ∧
    ∀ t, outcome = .ok t → ∃ items total, isPart items ∧ Unfolds (Below env) (QueuedContent.yields env) items total ∧
      nodesOf t.proxies=nodesOf s.proxies+total

section
variable {env files} {s : Loading}

lemma Settles.error {run : ℕ → Except Str Loading} {isPart : List QueuedContent → Prop} {err : Str}
    (hrun : ∀ rounds, run rounds = .error err) (hpart : ∀ items, ¬isPart items) : Settles env run s isPart :=
  ⟨0,.error err,fun rounds _ => hrun rounds,iff_of_false nofun (fun ⟨items,h⟩ => hpart items h),nofun⟩

/-- Once the queue is empty, further rounds change nothing. -/
lemma parseContentQueue_settles {rounds n : ℕ} {content source : Str}
    (hdone : (parseContentQueue env content source n).queue=[]) (hle : n ≤ rounds) :
    parseContentQueue env content source rounds=parseContentQueue env content source n := by
  obtain ⟨k,rfl⟩ := Nat.exists_eq_add_of_le' hle
  have hsame : Function.IsFixedPt (Expansion.step env) (parseContentQueue env content source n) := by
    unfold Function.IsFixedPt Expansion.step
    rw [hdone]
  exact (Function.iterate_add_apply _ _ _ _).trans (hsame.iterate k)

lemma loadFile_settles (hshrinks : Base64Shrinks env.toLinkExternals) (file : Str) :
    Settles env (fun rounds => loadFile env files rounds s file) s (IsReadAs files file) := by
  unfold loadFile IsReadAs
  cases files.readToString file with
  | error e => exact .error (fun _ => rfl) (by rintro items ⟨_,⟨⟩,-⟩)
  | ok content =>
    have hafter : Base64Shrinks (env.after s.requested).toLinkExternals := hshrinks
    obtain ⟨n,hdone,-⟩ := parseContentQueue_ends hafter content file
    refine ⟨n,_,fun rounds hle => congrArg (Except.ok ∘ s.add) (parseContentQueue_settles hdone hle),
      iff_of_true ⟨_,rfl⟩ ⟨_,content,rfl,rfl⟩,?_⟩
    rintro _ ⟨rfl⟩
    obtain ⟨total,hunfolds,htotal⟩ := worksOff.unfolds (n := n) (s := .start content file) hdone
    refine ⟨_,total,⟨content,rfl,rfl⟩,hunfolds.mono fun _ _ => Below.of_after,?_⟩
    exact (nodesOf_extend _ _).trans (congrArg _ (htotal.trans (zero_add total)))

lemma foldlM_settles {α : Type} {f : ℕ → Loading → α → Except Str Loading} {isPart : α → List QueuedContent → Prop}
    (h : ∀ s a, Settles env (fun rounds => f rounds s a) s (isPart a)) (as : List α) :
    Settles env (fun rounds => as.foldlM (f rounds) s) s (Listed isPart as) := by
  induction as generalizing s with
  | nil =>
    refine ⟨0,.ok s,fun _ _ => rfl,iff_of_true ⟨s,rfl⟩ ⟨[],.nil⟩,?_⟩
    rintro _ ⟨rfl⟩
    exact ⟨[],0,.nil,.nil,(add_zero _).symm⟩
  | cons a as ih =>
    obtain ⟨enough,outcome,hrun,hiff,hok⟩ := h s a
    cases outcome with
    | error err =>
      refine ⟨enough,.error err,fun rounds hle => ?_,iff_of_false nofun ?_,nofun⟩
      · have hhead : f rounds s a = .error err := hrun rounds hle
        dsimp only
        rw [List.foldlM_cons,hhead]
        rfl
      · rintro ⟨_,hlisted⟩
        cases hlisted with
        | cons hhead _ => exact nomatch hiff.mpr ⟨_,hhead⟩
    | ok t =>
      obtain ⟨part,total,hpart,hunfolds,ht⟩ := hok t rfl
      obtain ⟨enough',outcome',hrun',hiff',hok'⟩ := ih (s := t)
      refine ⟨max enough enough',outcome',fun rounds hle => ?_,hiff'.trans ⟨?_,?_⟩,fun u hu => ?_⟩
      · have hhead : f rounds s a = .ok t := hrun rounds (le_of_max_le_left hle)
        dsimp only
        rw [List.foldlM_cons,hhead]
        exact hrun' rounds (le_of_max_le_right hle)
      · rintro ⟨items,hitems⟩
        exact ⟨_,.cons hpart hitems⟩
      · rintro ⟨_,hlisted⟩
        cases hlisted with
        | cons _ htail => exact ⟨_,htail⟩
      · obtain ⟨items,total',hitems,hunfolds',hu'⟩ := hok' u hu
        exact ⟨_,_,.cons hpart hitems,hunfolds.append hunfolds',by rw [hu',ht,add_assoc]⟩

lemma loadPath_settles (hshrinks : Base64Shrinks env.toLinkExternals) (path : Str) :
    Settles env (fun rounds => loadPath env files rounds s path) s (IsFilledWith files path) := by
  unfold loadPath IsFilledWith
  cases collectSourceFiles files path with
  | error err => exact .error (fun _ => rfl) (by rintro items ⟨_,⟨⟩,-⟩)
  | ok found =>
    obtain ⟨enough,outcome,hrun,hiff,hok⟩ :=
      foldlM_settles (fun s file => loadFile_settles (s := s) hshrinks file) (found.mergeSort files.pathLe)
    refine ⟨enough,outcome,hrun,hiff.trans ⟨?_,?_⟩,fun t ht => ?_⟩
    · exact fun ⟨items,hitems⟩ => ⟨items,found,rfl,hitems⟩
    · rintro ⟨items,_,⟨rfl⟩,hitems⟩
      exact ⟨items,hitems⟩
    · obtain ⟨items,total,hitems,hsum⟩ := hok t ht
      exact ⟨items,total,⟨found,rfl,hitems⟩,hsum⟩

lemma loadProxiesFromPaths_settles {ext : ClientExternals} {options : SubscriptionOptions}
    (hshrinks : Base64Shrinks env.toLinkExternals) (paths : List Str) : ∃ enough outcome,
    (∀ rounds, enough ≤ rounds → loadProxiesFromPaths env files ext paths options rounds=outcome) ∧
    ((∃ proxies, outcome = .ok proxies) ↔
      buildSubscriptionClient ext options = .ok () ∧ ∃ items, files.HaveRead paths items) ∧
    ∀ proxies, outcome = .ok proxies → ∃ items, files.HaveRead paths items ∧
      Unfolds (Below env) (QueuedContent.yields env) items (nodesOf proxies) := by
  unfold loadProxiesFromPaths
  cases buildSubscriptionClient ext options with
  | error err => exact ⟨0,.error err,fun _ _ => rfl,iff_of_false nofun (fun h => nomatch h.1),nofun⟩
  | ok u =>
    obtain ⟨enough,outcome,hrun,hiff,hok⟩ :=
      foldlM_settles (s := ⟨.empty,[]⟩) (fun s path => loadPath_settles (s := s) hshrinks path) paths
    refine ⟨enough,outcome.map Loading.proxies,fun rounds hle => ?_,?_,?_⟩
    · have hload : paths.foldlM (loadPath env files rounds) ⟨.empty,[]⟩=outcome := hrun rounds hle
      change Except.bind (paths.foldlM (loadPath env files rounds) ⟨.empty,[]⟩) (fun s => .ok s.proxies)=_
      rw [hload]
      cases outcome <;> rfl
    · rw [and_iff_right rfl]
      exact exists_map_ok.trans hiff
    · intro proxies hproxies
      obtain ⟨t,rfl,rfl⟩ := map_eq_ok.mp hproxies
      obtain ⟨items,total,hitems,hunfolds,htotal⟩ := hok t rfl
      refine ⟨items,hitems,?_⟩
      rw [htotal]
      have hzero : nodesOf LoadedProxySet.empty+total=total := zero_add total
      exact hzero.symm ▸ hunfolds

end

end RotatorProxy.Link
