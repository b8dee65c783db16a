import UncrownedKing.Server.ReloadLaws
import UncrownedKing.Server.ReloadRequest

/-!
# Reload reports and what they say

A task either commits, from the moment its checks and loads have succeeded, or
never writes anything.
-/

namespace UncrownedKing.Server

open Lib Auth Mask Policy

variable {Acceptor QuicConfig : Type}

def ReloadStage.commits : ReloadStage Acceptor QuicConfig → Bool
  | .preparing outcome => outcome.isOk
  | .numbered _ _ | .published _ _ => true
  | .finished result => result.isOk

namespace ReloadServer

variable {server : ReloadServer Acceptor QuicConfig}

@[simp] theorem setTask_tasks (request : Nat) (stage : ReloadStage Acceptor QuicConfig) :
    (server.setTask request stage).tasks = Function.update server.tasks request (some stage) := by
  simp only [setTask]

def commits (server : ReloadServer Acceptor QuicConfig) (request : Nat) : Bool :=
  (server.tasks request).any ReloadStage.commits

theorem work_cases (server : ReloadServer Acceptor QuicConfig) (request : Nat) :
    server.work request = server ∨
      ∃ stage stage' live nextGeneration, server.tasks request = some stage ∧
        stage'.commits = stage.commits ∧ (live ≠ server.live → stage.commits) ∧
        server.work request = { server.setTask request stage' with
          live := live, nextGeneration := nextGeneration } := by
  unfold work
  split
  · exact .inl rfl
  · rename_i failure h
    exact .inr ⟨_, .finished (.error failure), server.live, server.nextGeneration, h, rfl,
      fun hne => absurd rfl hne, rfl⟩
  · rename_i prepared h
    exact .inr ⟨_, .numbered prepared server.nextGeneration, server.live, server.nextGeneration + 1,
      h, rfl, fun _ => rfl, rfl⟩
  · rename_i prepared generation h
    exact .inr ⟨_, .published prepared generation, _, server.nextGeneration, h, rfl,
      fun _ => rfl, rfl⟩
  · rename_i prepared generation h
    exact .inr ⟨_, .finished (.ok generation), _, server.nextGeneration, h, rfl,
      fun _ => rfl, rfl⟩
  · exact .inl rfl

theorem commits_work (request other : Nat) :
    (server.work request).commits other = server.commits other := by
  obtain h | ⟨stage, stage', live, nextGeneration, htask, hsame, -, h⟩ := work_cases server request
  · rw [h]
  · rw [h]
    by_cases heq : other = request
    · subst heq
      simp [commits, htask, hsame]
    · simp [commits, heq]

theorem commits_of_work_live (h : (server.work request).live ≠ server.live) :
    server.commits request := by
  obtain hsame | ⟨stage, stage', live, nextGeneration, htask, -, hlive, hwork⟩ :=
    work_cases server request
  · exact absurd (congrArg ReloadServer.live hsame) h
  · rw [hwork] at h
    simp [commits, htask, hlive h]

structure Orderly (seen : List ReloadEvent) (server : ReloadServer Acceptor QuicConfig) :
    Prop where
  queue_lt : ∀ p ∈ server.queue, p.1 < server.requests
  queue_nodup : (server.queue.map Prod.fst).Nodup
  queue_untouched : ∀ p ∈ server.queue, server.tasks p.1 = none
  tasks_lt : ∀ request, server.tasks request ≠ none → request < server.requests
  handling_task : ∀ request, server.handling = some request → server.tasks request ≠ none
  answered_lt : ∀ request result, .answered request result ∈ seen → request < server.requests
  answered_left : ∀ request result, .answered request result ∈ seen →
    request ∉ server.queue.map Prod.fst
  truthful : ∀ request error, .answered request (.error error) ∈ seen →
    server.commits request = false

/-- The loop leaves no task behind that will succeed. -/
def Awaits (server : ReloadServer Acceptor QuicConfig) : ReloadAct Acceptor QuicConfig → Prop
  | .timeout | .cancel => ∀ request, server.handling = some request → ¬ server.commits request
  | _ => True

instance : Decidable (Awaits server act) :=
  match act with
  | .timeout | .cancel =>
    inferInstanceAs (Decidable (∀ request, server.handling = some request → _))
  | .request _ | .receive _ | .work _ | .join | .shutdown => .isTrue trivial

variable {hmac : Hmac}

theorem commits_of_no_task (h : server.tasks request = none) : server.commits request = false := by
  simp [commits, h]

section

variable (h : server.Orderly seen)
include h

theorem Orderly.answer (hevents : ∀ request result, .answered request result ∈ events →
      request < server.requests ∧ request ∉ server.queue.map Prod.fst ∧
        ∀ error, result = .error error → server.commits request = false) :
    server.Orderly (seen ++ events) where
  queue_lt := h.queue_lt
  queue_nodup := h.queue_nodup
  queue_untouched := h.queue_untouched
  tasks_lt := h.tasks_lt
  handling_task := h.handling_task
  answered_lt := fun request result hmem => by
    rcases List.mem_append.mp hmem with hold | hnew
    · exact h.answered_lt _ _ hold
    · exact (hevents _ _ hnew).1
  answered_left := fun request result hmem => by
    rcases List.mem_append.mp hmem with hold | hnew
    · exact h.answered_left _ _ hold
    · exact (hevents _ _ hnew).2.1
  truthful := fun request error hmem => by
    rcases List.mem_append.mp hmem with hold | hnew
    · exact h.truthful _ _ hold
    · exact (hevents _ _ hnew).2.2 error rfl

theorem Orderly.narrow (alive : Bool) (hqueue : List.Sublist waiting server.queue)
    (hhandling : ∀ request, handled = some request → server.handling = some request) :
    Orderly seen { server with running := alive, queue := waiting, handling := handled } where
  queue_lt := fun p hp => h.queue_lt p (hqueue.subset hp)
  queue_nodup := h.queue_nodup.sublist (hqueue.map _)
  queue_untouched := fun p hp => h.queue_untouched p (hqueue.subset hp)
  tasks_lt := h.tasks_lt
  handling_task := fun request hr => h.handling_task request (hhandling request hr)
  answered_lt := h.answered_lt
  answered_left := fun request result hmem hin =>
    h.answered_left request result hmem ((hqueue.map _).subset hin)
  truthful := h.truthful

theorem Orderly.mem_queue (hmem : request ∈ server.queue.map Prod.fst) :
    request < server.requests ∧ server.commits request = false := by
  obtain ⟨p, hp, rfl⟩ := List.mem_map.mp hmem
  exact ⟨h.queue_lt p hp, commits_of_no_task (h.queue_untouched p hp)⟩

theorem Orderly.handled (hr : server.handling = some request) :
    request < server.requests ∧ request ∉ server.queue.map Prod.fst := by
  have htask := h.handling_task request hr
  refine ⟨h.tasks_lt request htask, fun hmem => ?_⟩
  obtain ⟨p, hp, rfl⟩ := List.mem_map.mp hmem
  exact htask (h.queue_untouched p hp)

theorem Orderly.answerHandled (hr : server.handling = some request)
    (hresult : ∀ error, result = .error error → server.commits request = false) :
    Orderly (seen ++ [.answered request result]) { server with handling := none } := by
  have hleft : Orderly seen { server with handling := none } :=
    h.narrow server.running (List.Sublist.refl _) nofun
  refine hleft.answer fun other answer hmem => ?_
  cases List.mem_singleton.mp hmem
  exact ⟨(h.handled hr).1, (h.handled hr).2, hresult⟩

theorem Orderly.count : Orderly seen { server with requests := server.requests + 1 } where
  queue_lt := fun p hp => Nat.lt_succ_of_lt (h.queue_lt p hp)
  queue_nodup := h.queue_nodup
  queue_untouched := h.queue_untouched
  tasks_lt := fun request hr => Nat.lt_succ_of_lt (h.tasks_lt request hr)
  handling_task := h.handling_task
  answered_lt := fun request result hmem => Nat.lt_succ_of_lt (h.answered_lt request result hmem)
  answered_left := h.answered_left
  truthful := h.truthful

theorem Orderly.untouched : server.tasks server.requests = none := by
  by_contra hne
  exact absurd (h.tasks_lt _ hne) (Nat.lt_irrefl _)

theorem Orderly.not_queued :
    server.requests ∉ server.queue.map Prod.fst := fun hmem =>
  absurd (h.mem_queue hmem).1 (Nat.lt_irrefl _)

theorem Orderly.enqueue (config : Except String ServerConfig) :
    Orderly seen { server with
      requests := server.requests + 1
      queue := server.queue ++ [(server.requests, config)] } where
  queue_lt := fun p hp => by
    rcases List.mem_append.mp hp with hold | hnew
    · exact Nat.lt_succ_of_lt (h.queue_lt p hold)
    · rw [List.mem_singleton.mp hnew]
      exact Nat.lt_succ_self _
  queue_nodup := by
    rw [List.map_append, List.map_singleton, List.nodup_append']
    refine ⟨h.queue_nodup, List.nodup_singleton _, ?_⟩
    simpa using h.not_queued
  queue_untouched := fun p hp => by
    rcases List.mem_append.mp hp with hold | hnew
    · exact h.queue_untouched p hold
    · rw [List.mem_singleton.mp hnew]
      exact h.untouched
  tasks_lt := fun request hr => Nat.lt_succ_of_lt (h.tasks_lt request hr)
  handling_task := h.handling_task
  answered_lt := fun request result hmem => Nat.lt_succ_of_lt (h.answered_lt request result hmem)
  answered_left := fun request result hmem => by
    have hlt := h.answered_lt request result hmem
    have hleft := h.answered_left request result hmem
    rw [List.map_append, List.mem_append, not_or]
    exact ⟨hleft, by simpa using Nat.ne_of_lt hlt⟩
  truthful := h.truthful

theorem Orderly.spawn (hqueue : server.queue = first :: waiting)
    (stage : ReloadStage Acceptor QuicConfig) :
    Orderly seen { server.setTask first.1 stage with
      queue := waiting
      handling := some first.1 } := by
  have hnodup := h.queue_nodup
  rw [hqueue, List.map_cons, List.nodup_cons] at hnodup
  have hmem : ∀ p ∈ waiting, p ∈ server.queue := fun p hp => hqueue ▸ List.mem_cons_of_mem _ hp
  have hother : ∀ p ∈ waiting, p.1 ≠ first.1 := fun p hp heq =>
    hnodup.1 (heq ▸ List.mem_map_of_mem hp)
  have hfirst : first ∈ server.queue := hqueue ▸ List.mem_cons_self
  refine
    { queue_lt := fun p hp => h.queue_lt p (hmem p hp)
      queue_nodup := hnodup.2
      queue_untouched := fun p hp => ?_
      tasks_lt := fun other hr => ?_
      handling_task := fun other hr => ?_
      answered_lt := h.answered_lt
      answered_left := fun other result hin hleft => ?_
      truthful := fun other error hin => ?_ }
  · simpa [hother p hp] using h.queue_untouched p (hmem p hp)
  · by_cases heq : other = first.1
    · rw [heq]
      exact h.queue_lt _ hfirst
    · exact h.tasks_lt other (by simpa [heq] using hr)
  · cases hr
    simp
  · refine h.answered_left other result hin ?_
    rw [hqueue]
    exact List.mem_cons_of_mem _ hleft
  · have hne : other ≠ first.1 := fun heq =>
      h.answered_left other _ hin (heq ▸ List.mem_map_of_mem hfirst)
    simpa [commits, hne] using h.truthful other error hin

theorem Orderly.work (request : Nat) : (server.work request).Orderly seen := by
  have hcommits : ∀ other, (server.work request).commits other = server.commits other :=
    commits_work request
  obtain hsame | ⟨stage, stage', live, nextGeneration, htask, -, -, hwork⟩ :=
    work_cases server request
  · rwa [hsame]
  · rw [hwork] at hcommits ⊢
    have htasks (other : Nat) :
        Function.update server.tasks request (some stage') other = none ↔
          server.tasks other = none := by
      by_cases heq : other = request
      · subst heq
        simp [htask]
      · simp [heq]
    exact
      { queue_lt := h.queue_lt
        queue_nodup := h.queue_nodup
        queue_untouched := fun p hp => (htasks p.1).mpr (h.queue_untouched p hp)
        tasks_lt := fun other hr => h.tasks_lt other (mt (htasks other).mpr hr)
        handling_task := fun other hr => mt (htasks other).mp (h.handling_task other hr)
        answered_lt := h.answered_lt
        answered_left := h.answered_left
        truthful := fun other error hin => (hcommits other).trans (h.truthful other error hin) }

end

theorem mem_dropped : .answered request result ∈ dropped gone ↔
    request ∈ gone ∧ result = .error .serverStopped := by
  simp only [dropped, List.mem_map, ReloadEvent.answered.injEq]
  constructor
  · rintro ⟨_, hmem, rfl, rfl⟩
    exact ⟨hmem, rfl⟩
  · rintro ⟨hmem, rfl⟩
    exact ⟨request, hmem, rfl, rfl⟩

theorem Orderly.step (h : server.Orderly seen) (act : ReloadAct Acceptor QuicConfig)
    (hawaits : server.Awaits act) :
    (step hmac server act).1.Orderly (seen ++ (step hmac server act).2) := by
  cases act with
  | request config =>
    simp only [ReloadServer.step]
    split
    · simpa using h.enqueue config
    · refine h.count.answer fun request result hmem => ?_
      obtain ⟨hmem, -⟩ := mem_dropped.mp hmem
      rw [List.mem_singleton.mp hmem]
      exact ⟨Nat.lt_succ_self _, h.not_queued, fun _ _ => commits_of_no_task h.untouched⟩
  | receive host =>
    simp only [ReloadServer.step]
    split
    · rename_i request reason waiting hhandling hqueue
      have hfirst : request ∈ server.queue.map Prod.fst := by simp [hqueue]
      have hnodup := h.queue_nodup
      rw [hqueue, List.map_cons, List.nodup_cons] at hnodup
      have hleft := h.narrow server.running (hqueue ▸ List.sublist_cons_self _ _) fun _ hr => hr
      refine hleft.answer fun other result hmem => ?_
      cases List.mem_singleton.mp hmem
      exact ⟨(h.mem_queue hfirst).1, hnodup.1, fun _ _ => (h.mem_queue hfirst).2⟩
    · rename_i request candidate waiting hhandling hqueue
      simpa using h.spawn hqueue _
    · simpa using h
  | work request => simpa [ReloadServer.step] using h.work request
  | join =>
    simp only [ReloadServer.step]
    split
    · simpa using h
    · rename_i request hhandling
      split
      · rename_i result htask
        refine h.answerHandled hhandling fun error herror => ?_
        cases result with
        | error failure => simp [commits, htask, ReloadStage.commits, Except.isOk, Except.toBool]
        | ok generation => cases herror
      · simpa using h
  | timeout =>
    simp only [ReloadServer.step]
    split
    · simpa using h
    · rename_i request hhandling
      exact h.answerHandled hhandling fun _ _ =>
        Bool.eq_false_of_not_eq_true (hawaits request hhandling)
  | shutdown =>
    simp only [ReloadServer.step]
    split
    · simpa using h
    · have hleft := h.narrow false (List.nil_sublist _) fun _ hr => hr
      refine hleft.answer fun request result hmem => ?_
      obtain ⟨hmem, -⟩ := mem_dropped.mp hmem
      exact ⟨(h.mem_queue hmem).1, List.not_mem_nil, fun _ _ => (h.mem_queue hmem).2⟩
  | cancel =>
    have hleft : Orderly seen { server with running := false, queue := [], handling := none } :=
      h.narrow false (List.nil_sublist _) fun _ hnone => by cases hnone
    refine hleft.answer fun request result hmem => ?_
    obtain ⟨hmem, -⟩ := mem_dropped.mp hmem
    rcases List.mem_append.mp hmem with hhandled | hqueued
    · have hhandling : server.handling = some request := by simpa using hhandled
      exact ⟨(h.handled hhandling).1, List.not_mem_nil,
        fun _ _ => Bool.eq_false_of_not_eq_true (hawaits request hhandling)⟩
    · exact ⟨(h.mem_queue hqueued).1, List.not_mem_nil, fun _ _ => (h.mem_queue hqueued).2⟩

theorem commits_step (h : server.Orderly seen) (act : ReloadAct Acceptor QuicConfig)
    (hcommits : server.commits request) : (ReloadServer.step hmac server act).1.commits request := by
  cases act with
  | receive host =>
    simp only [ReloadServer.step]
    split
    · exact hcommits
    · rename_i first candidate waiting hhandling hqueue
      have hne : request ≠ first := by
        rintro rfl
        have hfirst := (h.mem_queue (show request ∈ server.queue.map Prod.fst by simp [hqueue])).2
        rw [hfirst] at hcommits
        cases hcommits
      simpa [commits, hne] using hcommits
    · exact hcommits
  | work other => exact (commits_work other request).trans hcommits
  | request _ | join | timeout | shutdown | cancel =>
    simp only [ReloadServer.step]
    repeat' split
    all_goals exact hcommits

theorem live_step (hwork : ∀ request, act ≠ .work request) :
    (ReloadServer.step hmac server act).1.live = server.live := by
  cases act with
  | work request => exact absurd rfl (hwork request)
  | receive _ | request _ | join | timeout | shutdown | cancel =>
    simp only [ReloadServer.step]
    repeat' split
    all_goals rfl

def start (config : ServerConfig) (live : LiveState Acceptor QuicConfig) (nextGeneration : Nat) :
    ReloadServer Acceptor QuicConfig where
  config := config
  live := live
  nextGeneration := nextGeneration

theorem Orderly.start (config : ServerConfig) (live : LiveState Acceptor QuicConfig)
    (nextGeneration : Nat) : Orderly [] (start config live nextGeneration) where
  queue_lt := fun _ h => absurd h List.not_mem_nil
  queue_nodup := List.nodup_nil
  queue_untouched := fun _ h => absurd h List.not_mem_nil
  tasks_lt := fun _ h => absurd rfl h
  handling_task := fun _ h => by cases h
  answered_lt := fun _ _ h => absurd h List.not_mem_nil
  answered_left := fun _ _ h => absurd h List.not_mem_nil
  truthful := fun _ _ h => absurd h List.not_mem_nil

/-- A request answered with an error never changes what connections see. -/
def ReportsTruly (hmac : Hmac) (server : ReloadServer Acceptor QuicConfig)
    (acts : List (ReloadAct Acceptor QuicConfig)) : Prop :=
  ∀ before act after, acts = before ++ act :: after →
    let now := (run (ReloadServer.step hmac) server before).1
    (ReloadServer.step hmac now act).1.live = now.live ∨
      ∃ request, act = .work request ∧
        ∀ error, .answered request (.error error) ∉ (run (ReloadServer.step hmac) server acts).2

/-- Reports are true if the loop stops waiting only for tasks that fail. -/
theorem reload_reports_truly (hmac : Hmac) (config : ServerConfig)
    (live : LiveState Acceptor QuicConfig) (nextGeneration : Nat)
    (acts : List (ReloadAct Acceptor QuicConfig))
    (hawaits : Along (ReloadServer.step hmac) Awaits (start config live nextGeneration) acts) :
    ReportsTruly hmac (start config live nextGeneration) acts := by
  rintro before act after rfl now
  obtain ⟨hbefore, hact, hafter⟩ := along_append hawaits
  have hnow : now.Orderly _ := run_invariant (fun seen server => server.Orderly seen)
    (fun _ _ act hc h => h.step act hc) (.start config live nextGeneration) hbefore
  by_cases hlive : (ReloadServer.step hmac now act).1.live = now.live
  · exact .inl hlive
  · obtain ⟨request, rfl⟩ : ∃ request, act = .work request := by
      by_contra hnone
      exact hlive (live_step fun request heq => hnone ⟨request, heq⟩)
    have hcommits : (now.work request).commits request :=
      (commits_work request request).trans (commits_of_work_live hlive)
    refine .inr ⟨request, rfl, fun error hmem => ?_⟩
    -- it stays committed to the end, where every error was answered truly
    have hend := run_invariant_from
      (fun seen server => server.Orderly seen ∧ server.commits request)
      (fun _ _ act hc h => ⟨h.1.step act hc, commits_step h.1 act h.2⟩)
      ⟨hnow.step (.work request) hact, hcommits⟩ hafter
    rw [run_append] at hmem
    have hnot := hend.1.truthful request error (by simpa [run] using hmem)
    rw [hend.2] at hnot
    cases hnot

def plainHost : CarrierHost Nat Nat where
  validateNetworkEndpoints _ := .ok ()
  validateSensitivePaths _ := .ok ()
  tlsAcceptor _ := .ok 1
  quicConfig _ := .ok 1
  policySet _ := .ok ⟨[]⟩

def plainLive : LiveState Nat Nat where
  current := ⟨⟨1, [], [], ⟨[]⟩, 0⟩, 0⟩
  quicServerConfig := some 0

def plainServer : ReloadServer Nat Nat := start sampleConfig plainLive 2

theorem failing_reload_reported :
    ReportsTruly sampleCrypto.hmac plainServer
      [.request (.ok sampleConfig), .receive (some plainHost), .work 0, .work 0, .work 0, .join,
        .request (.ok sampleConfig), .receive none, .timeout, .work 1] :=
  reload_reports_truly sampleCrypto.hmac sampleConfig plainLive 2 _ (by decide +kernel)

/-- The loop gives up on a task that is still loading, and it publishes. -/
theorem timed_out_reload_publishes :
    ¬ ReportsTruly sampleCrypto.hmac plainServer
      [.request (.ok sampleConfig), .receive (some plainHost), .timeout, .work 0, .work 0] := by
  intro htruly
  rcases htruly [.request (.ok sampleConfig), .receive (some plainHost), .timeout, .work 0] (.work 0)
    [] rfl with hlive | ⟨request, hrequest, hnone⟩
  · have hgeneration := congrArg (fun live => live.current.generation) hlive
    revert hgeneration
    decide +kernel
  · cases hrequest
    refine hnone (.rejected .timedOut) ?_
    decide +kernel

end ReloadServer

end UncrownedKing.Server
