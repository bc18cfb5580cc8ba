import Bumper.System.World

/-! # Replies and waiters

The message hook appends every reply to the helper bot to `command_responses`; a waiter of
`send_command` takes the first reply to its request id it finds there; the expiry loop removes old
records. These three are the only code that touches the buffer, and none of them awaits while it
does, so they never interleave.

The log of `World` records each append, take and prune. Three invariants are kept by every event
(`step_cases` says what an event can do to the buffer): `Correlated` (what was appended is in the
buffer, taken or pruned; a take is a reply to the waiter's request), `Arrived` (the buffer is a
sublist of the appended records) and `Fresh` (what a waiter takes was in the buffer at its
command, or came later). From them:

* `correlator_safety`: replies are taken at most once, each by a waiter for its request id;
* `reply_buffered_or_after_command`: a reply waiting in the buffer is taken by a later command
  with the same request id (`late_reply_reaches_later_request`);
* `buffer_in_arrival_order`: the buffer keeps arrival order, and may hold two replies with one
  request id (`duplicate_reply_buffered_twice`);
* `short_topic_fails_waiter`: a short topic ahead of a reply makes the waiter fail. -/

namespace Bumper.System.Correlator

open Bumper.Python Bumper.Helperbot Bumper.Server Bumper.Plugin.Auth Bumper.Plugin.Lifecycle
  Bumper.Plugin.Message Bumper.ProxyClient
open scoped List

section Steps

variable {V : Type} {cfg : Config} {codec : Codec V}

/-- The response buffer, the waiters and the log are as they were. -/
def Quiet (w w' : World V) : Prop :=
  w'.server.commandResponses = w.server.commandResponses ∧ w'.waiters = w.waiters ∧ w'.log = w.log

theorem quiet_of_server {w : World V} {s : State}
    (h : s.commandResponses = w.server.commandResponses) :
    Quiet w { w with server := s } := ⟨h, rfl, rfl⟩

/-- The events that leave the response buffer, the waiters and the log alone: all but the message
hook, `send_command` and the waiters' wake-ups. -/
def quietEvent : Event V → Bool
  | .received .. | .sendCommand .. | .poll .. | .timeout .. | .cancel .. => false
  | _ => true

theorem quiet_step {w w' : World V} {e : Event V} (he : quietEvent e = true)
    (h : step cfg codec w e = some w') : Quiet w w' := by
  cases e
  case authenticate sess ext =>
    obtain ⟨b, s, hr, rfl⟩ := step_authenticate h
    have hk := keeps_authenticate State.commandResponses (fun _ _ => rfl) (fun _ _ _ => rfl) cfg
      ext sess w.server
    rw [hr] at hk
    exact ⟨hk, rfl, rfl⟩
  case connected c =>
    cases h
    exact quiet_of_server (keeps_onRegistry State.commandResponses (fun _ _ => rfl) _ w.server)
  case subscribed c topic qos =>
    cases h
    exact quiet_of_server (keeps_onBrokerClientSubscribed State.commandResponses
      (fun _ _ => rfl) _ _ _ _ w.server)
  case disconnected c =>
    cases h
    exact ⟨disconnected_keeps State.commandResponses (fun _ _ => rfl) (fun _ _ => rfl) cfg w c,
      World.disconnected_waiters w c, World.disconnected_log w c⟩
  case delivered hc m =>
    obtain ⟨-, -, -, -, rfl⟩ := step_delivered h
    exact ⟨delivered_keeps State.commandResponses (fun _ _ => rfl)
      (keeps_getMsgTurn State.commandResponses (fun _ _ => rfl) (fun _ _ => rfl) m) w hc,
      World.delivered_waiters w hc m, World.delivered_log w hc m⟩
  case resume k =>
    obtain ⟨sp, -, rfl⟩ := step_resume h
    exact ⟨resume_keeps State.commandResponses (fun _ _ => rfl) (fun _ _ => rfl) w k sp, rfl, rfl⟩
  all_goals cases he

/-- **What one event can do to the buffer, the waiters and the log.** Only the message hook,
`send_command` and the waiters' wake-ups touch them. -/
theorem step_cases {w w' : World V} {e : Event V} (h : step cfg codec w e = some w') :
    Quiet w w' ∨ (∃ c m now, w' = w.received cfg c m now) ∨
      (∃ cmd r now, w' = w.sendCommand codec cmd r now) ∨
      ∃ i wt, w.waiters[i]? = some wt ∧ wt.result = none ∧
        (w' = w.poll codec i wt ∨ w' = w.finish i wt) := by
  cases e
  case received c m now => cases h; exact .inr (.inl ⟨c, m, now, rfl⟩)
  case sendCommand cmd r now => cases h; exact .inr (.inr (.inl ⟨cmd, r, now, rfl⟩))
  case poll i now =>
    obtain ⟨wt, hwt, hnone, -, rfl⟩ := step_poll h
    exact .inr (.inr (.inr ⟨i, wt, hwt, hnone, .inl rfl⟩))
  case timeout i now =>
    obtain ⟨wt, hwt, hnone, -, rfl⟩ := step_timeout h
    exact .inr (.inr (.inr ⟨i, wt, hwt, hnone, .inr rfl⟩))
  case cancel i =>
    obtain ⟨wt, hwt, hnone, rfl⟩ := step_cancel h
    exact .inr (.inr (.inr ⟨i, wt, hwt, hnone, .inr rfl⟩))
  all_goals exact .inl (quiet_step (by rfl) h)

/-! ### The log -/

/-- The records the message hook appended. -/
def appendedOf : List Obs → List Record :=
  List.filterMap fun | .appended rec => some rec | _ => none

/-- The records waiters took. -/
def claimedOf : List Obs → List Record :=
  List.filterMap fun | .claimed _ rec => some rec | _ => none

/-- The records the expiry loop removed. -/
def prunedOf : List Obs → List Record :=
  List.filterMap fun | .pruned _ rec => some rec | _ => none

/-- The records waiter `i` took. -/
def claimsOf (i : Nat) : List Obs → List Record :=
  List.filterMap fun | .claimed j rec => if j = i then some rec else none | _ => none

theorem mem_appendedOf {rec : Record} {log : List Obs} :
    rec ∈ appendedOf log ↔ Obs.appended rec ∈ log := by
  simp only [appendedOf, List.mem_filterMap]
  constructor
  · rintro ⟨o, ho, h⟩
    rcases o with r | _ | _ | _ <;> simp only [reduceCtorEq, Option.some.injEq] at h
    exact h ▸ ho
  · exact fun h => ⟨_, h, rfl⟩

theorem mem_claimsOf {i : Nat} {rec : Record} {log : List Obs} :
    rec ∈ claimsOf i log ↔ Obs.claimed i rec ∈ log := by
  simp only [claimsOf, List.mem_filterMap]
  constructor
  · rintro ⟨o, ho, h⟩
    rcases o with _ | ⟨j, r⟩ | _ | _ <;> simp only [reduceCtorEq] at h
    split at h <;> cases h
    subst j; exact ho
  · exact fun h => ⟨_, h, by simp⟩

/-- The invariant of the response buffer, the waiters and the log, over every run. -/
structure Correlated (codec : Codec V) (w : World V) : Prop where
  /-- Each appended record is in the buffer, or was taken by a waiter, or pruned: once. -/
  conservation : appendedOf w.log ~ w.server.commandResponses ++ claimedOf w.log ++ prunedOf w.log
  pruned_expired : ∀ now rec, Obs.pruned now rec ∈ w.log → expired w.zone now rec = true
  /-- A waiter that took a record returned it as its reply. -/
  claimed_ok : ∀ i rec, Obs.claimed i rec ∈ w.log → ∃ wt resp, w.waiters[i]? = some wt ∧
    wt.result = some (.ok wt.requestid resp) ∧ IsReplyTo wt.requestid rec ∧
      DecodedAs codec.loads rec resp
  /-- A waiter that returned a reply took a record. -/
  ok_claimed : ∀ i wt id resp, w.waiters[i]? = some wt → wt.result = some (.ok id resp) →
    ∃ rec, Obs.claimed i rec ∈ w.log
  claims_le_one : ∀ i, (claimsOf i w.log).length ≤ 1

theorem Correlated.init (codec : Codec V) (registry : Registry) (zone : Zone) :
    Correlated codec (World.start registry zone) :=
  ⟨List.Perm.refl _, by simp [World.start], by simp [World.start], by simp [World.start],
    by simp [World.start, claimsOf]⟩

theorem Correlated.quiet {w w' : World V} (hc : Correlated codec w) (hq : Quiet w w')
    (hz : w'.zone = w.zone) : Correlated codec w' := by
  obtain ⟨h1, h2, h3⟩ := hq
  obtain ⟨c1, c2, c3, c4, c5⟩ := hc
  exact ⟨by rw [h1, h3]; exact c1, by rw [h3, hz]; exact c2, by rw [h2, h3]; exact c3,
    by rw [h2, h3]; exact c4, by rw [h3]; exact c5⟩

/-- A waiter that has not returned has taken nothing. -/
theorem Correlated.unclaimed {w : World V} (hc : Correlated codec w) {i : Nat} {wt : Waiter V}
    (hwt : w.waiters[i]? = some wt) (hnone : wt.result = none) (rec : Record) :
    Obs.claimed i rec ∉ w.log := fun h => by
  obtain ⟨wt', _, hwt', h'⟩ := hc.claimed_ok i rec h
  rw [hwt] at hwt'; cases hwt'; rw [hnone] at h'; cases h'.1

/-- A waiter that returned a reply took a reply to its request, and returned its payload. -/
theorem Correlated.reply_of_ok {w : World V} (hc : Correlated codec w) {i : Nat} {wt : Waiter V}
    {id : String} {resp : Resp V} (hwt : w.waiters[i]? = some wt)
    (hres : wt.result = some (.ok id resp)) :
    ∃ rec, Obs.claimed i rec ∈ w.log ∧ IsReplyTo id rec ∧ DecodedAs codec.loads rec resp := by
  obtain ⟨rec, hm⟩ := hc.ok_claimed i wt id resp hwt hres
  obtain ⟨wt', resp', hwt', hres', hrep, hdec⟩ := hc.claimed_ok i rec hm
  rw [hwt] at hwt'; cases hwt'
  rw [hres] at hres'; cases hres'
  exact ⟨rec, hm, hrep, hdec⟩

/-! ### One event at a time -/

/-- The buffer after the message hook is a sublist of the buffer with the reply appended, and what
is missing from it expired. -/
theorem received_buffer (proxyMode : Bool) (c : String) (m : Message) (zone : Zone) (now : Nat)
    (s : State) :
    let r := (onBrokerMessageReceived proxyMode c m zone now).run s
    (finalState r).commandResponses <+ s.commandResponses ++ appendedBy r ∧
      ∀ rec ∈ (s.commandResponses ++ appendedBy r).diff (finalState r).commandResponses,
        expired zone now rec = true := by
  have h := commandResponses_onBrokerMessageReceived proxyMode c m zone now s
  revert h
  cases (onBrokerMessageReceived proxyMode c m zone now).run s with
  | ok k s' =>
    intro h; dsimp only [appendedBy, finalState] at h ⊢; rw [h]
    exact ⟨pruneExpired_sublist _ _ _, fun _ hm => expired_of_mem_diff hm⟩
  | error e s' =>
    intro h; dsimp only [appendedBy, finalState] at h ⊢; rw [h, List.append_nil]
    exact ⟨List.Sublist.refl _, by simp⟩

theorem Correlated.received {w : World V} (hc : Correlated codec w) (c : String) (m : Message)
    (now : Nat) : Correlated codec (w.received cfg c m now) := by
  obtain ⟨hsub, hexp⟩ := received_buffer cfg.proxyMode c m w.zone now w.server
  obtain ⟨c1, c2, c3, c4, c5⟩ := hc
  refine ⟨?_, ?_, ?_, ?_, ?_⟩ <;> simp only [World.received]
  · simp [appendedOf, claimedOf, prunedOf, List.filterMap_map, Function.comp_def] at c1 ⊢
    rw [List.perm_iff_count] at c1 ⊢
    intro x
    have h1 := c1 x
    have h2 := (perm_append_diff_of_sublist hsub).count_eq x
    simp only [List.count_append] at h1 h2 ⊢
    omega
  · intro now' rec hm
    simp only [List.mem_append, List.mem_map, reduceCtorEq, and_false, exists_false, false_or,
      or_false, Obs.pruned.injEq] at hm
    rcases hm with hm | ⟨rec', hrec, rfl, rfl⟩
    · exact c2 _ _ hm
    · exact hexp _ hrec
  · intro i rec hm
    simp only [List.mem_append, List.mem_map, reduceCtorEq, and_false, exists_false, or_false] at hm
    exact c3 i rec hm
  · intro i wt id resp hwt hres
    obtain ⟨rec, hm⟩ := c4 i wt id resp hwt hres
    exact ⟨rec, List.mem_append_left _ (List.mem_append_left _ hm)⟩
  · intro i
    simpa [claimsOf, List.filterMap_map, Function.comp_def] using c5 i

theorem Correlated.sendCommand {w : World V} (hc : Correlated codec w) (cmd : Command V)
    (r : String) (now : Nat) : Correlated codec (w.sendCommand codec cmd r now) := by
  obtain ⟨c1, c2, c3, c4, c5⟩ := hc
  refine ⟨?_, ?_, ?_, ?_, ?_⟩ <;> simp only [World.sendCommand]
  · simpa [appendedOf, claimedOf, prunedOf] using c1
  · intro now rec hm
    simp only [List.mem_append, List.mem_singleton, reduceCtorEq, or_false] at hm
    exact c2 _ _ hm
  · intro i rec hm
    simp only [List.mem_append, List.mem_singleton, reduceCtorEq, or_false] at hm
    obtain ⟨wt, resp, hwt, h⟩ := c3 i rec hm
    exact ⟨wt, resp, by rw [List.getElem?_append_left (List.getElem?_eq_some.1 hwt).1, hwt], h⟩
  · intro i wt id resp hwt hres
    rcases Nat.lt_or_ge i w.waiters.length with hi | hi
    · rw [List.getElem?_append_left hi] at hwt
      obtain ⟨rec, hm⟩ := c4 i wt id resp hwt hres
      exact ⟨rec, List.mem_append_left _ hm⟩
    · rw [List.getElem?_append_right hi] at hwt
      obtain ⟨_, rfl⟩ := List.getElem?_eq_some.1 hwt
      simp at hres
  · intro i
    simpa [claimsOf] using c5 i

theorem getElem?_set_of_getElem? {α : Type} {l : List α} {i j : Nat} {a b : α}
    (h : l[i]? = some a) : (l.set i b)[j]? = if i = j then some b else l[j]? := by
  rw [List.getElem?_set, if_pos (List.getElem?_eq_some.1 h).1]

/-- A wake-up that takes no record and leaves no reply keeps the invariant. -/
theorem Correlated.setResult {w : World V} (hc : Correlated codec w) {i : Nat} {wt : Waiter V}
    (hwt : w.waiters[i]? = some wt) (hnone : wt.result = none) (x : Option (CmdResult V))
    (hx : ∀ id resp, x ≠ some (.ok id resp)) :
    Correlated codec { w with waiters := w.waiters.set i { wt with result := x } } := by
  have hfresh := hc.unclaimed hwt hnone
  obtain ⟨c1, c2, c3, c4, c5⟩ := hc
  refine ⟨c1, c2, ?_, ?_, c5⟩
  · intro j rec hm
    obtain ⟨wt', resp, hwt', h⟩ := c3 j rec hm
    have hij : i ≠ j := by rintro rfl; exact hfresh rec hm
    exact ⟨wt', resp, by rw [getElem?_set_of_getElem? hwt, if_neg hij, hwt'], h⟩
  · intro j wt' id resp hwt' hres
    rw [getElem?_set_of_getElem? hwt] at hwt'
    split at hwt'
    · cases hwt'; exact absurd hres (hx id resp)
    · exact c4 j wt' id resp hwt' hres

theorem Correlated.finish {w : World V} (hc : Correlated codec w) {i : Nat} {wt : Waiter V}
    (hwt : w.waiters[i]? = some wt) (hnone : wt.result = none) :
    Correlated codec (w.finish i wt) :=
  hc.setResult hwt hnone _ fun _ _ h => by cases h

/-- A wake-up that takes a reply to its own request from the buffer, and returns it, keeps the
invariant. -/
theorem Correlated.claim {w : World V} (hc : Correlated codec w) {i : Nat} {wt : Waiter V}
    (hwt : w.waiters[i]? = some wt) (hnone : wt.result = none) {msg : Record} {resp : Resp V}
    (hm : msg ∈ w.server.commandResponses) (hrep : IsReplyTo wt.requestid msg)
    (hdec : DecodedAs codec.loads msg resp) :
    Correlated codec { w with
      server := { w.server with commandResponses := w.server.commandResponses.erase msg }
      waiters := w.waiters.set i { wt with result := some (.ok wt.requestid resp) }
      log := w.log ++ [.claimed i msg] } := by
  have hfresh := hc.unclaimed hwt hnone
  obtain ⟨c1, c2, c3, c4, c5⟩ := hc
  refine ⟨?_, ?_, ?_, ?_, ?_⟩
  · simp [appendedOf, claimedOf, prunedOf] at c1 ⊢
    rw [List.perm_iff_count] at c1 ⊢
    intro x
    have h1 := c1 x
    have h2 := (List.perm_cons_erase hm).count_eq x
    simp only [List.count_append, List.count_cons, List.count_singleton] at h1 h2 ⊢
    omega
  · intro now rec hm'
    simp only [List.mem_append, List.mem_singleton, reduceCtorEq, or_false] at hm'
    exact c2 _ _ hm'
  · intro j rec hm'
    simp only [List.mem_append, List.mem_singleton, Obs.claimed.injEq] at hm'
    rcases hm' with hm' | ⟨rfl, rfl⟩
    · obtain ⟨wt', resp', hwt', h'⟩ := c3 j rec hm'
      have hij : i ≠ j := by rintro rfl; exact hfresh rec hm'
      exact ⟨wt', resp', by rw [getElem?_set_of_getElem? hwt, if_neg hij, hwt'], h'⟩
    · exact ⟨{ wt with result := some (.ok wt.requestid resp) }, resp,
        by rw [getElem?_set_of_getElem? hwt, if_pos rfl], rfl, hrep, hdec⟩
  · intro j wt' id resp' hwt' hres
    rw [getElem?_set_of_getElem? hwt] at hwt'
    split at hwt'
    · subst_vars; exact ⟨msg, by simp⟩
    · obtain ⟨rec, h⟩ := c4 j wt' id resp' hwt' hres
      exact ⟨rec, List.mem_append_left _ h⟩
  · intro j
    by_cases hij : i = j
    · subst hij
      have h0 : claimsOf i w.log = [] :=
        List.eq_nil_iff_forall_not_mem.2 fun rec h => hfresh rec (mem_claimsOf.1 h)
      have happ : claimsOf i (w.log ++ [.claimed i msg]) = claimsOf i w.log ++ [msg] := by
        simp [claimsOf]
      rw [happ, h0]; simp
    · simpa [claimsOf, hij] using c5 j

/-- A wake-up that scans the buffer keeps the invariant: it takes one reply to its own request,
and then returns it, or it takes nothing. -/
theorem Correlated.poll {w : World V} (hc : Correlated codec w) {i : Nat} {wt : Waiter V}
    (hwt : w.waiters[i]? = some wt) (hnone : wt.result = none) :
    Correlated codec (w.poll codec i wt) := by
  rcases pollResponses_cases codec.loads wt.requestid w.server.commandResponses with
    ⟨msg, resp, hm, hrep, hdec, hr⟩ | hr | ⟨e, hr⟩
  · simp only [World.poll, hr, pollOutcome, finalState, diff_erase_of_mem hm, List.map_cons,
      List.map_nil]
    exact hc.claim hwt hnone hm hrep hdec
  · simpa [World.poll, hr, pollOutcome, finalState] using
      hc.setResult hwt hnone none fun _ _ h => by cases h
  · simpa [World.poll, hr, pollOutcome, finalState] using
      hc.setResult hwt hnone (some (timedOut wt.requestid)) fun _ _ h => by cases h

theorem Correlated.step {w w' : World V} {e : Event V} (hc : Correlated codec w)
    (h : step cfg codec w e = some w') : Correlated codec w' := by
  rcases step_cases h with hq | ⟨c, m, now, rfl⟩ | ⟨cmd, r, now, rfl⟩ | ⟨i, wt, hwt, hn, rfl | rfl⟩
  · exact hc.quiet hq (step_zone h)
  · exact hc.received c m now
  · exact hc.sendCommand cmd r now
  · exact hc.poll hwt hn
  · exact hc.finish hwt hn

theorem correlated_of_reachable {w : World V} (h : Reachable cfg codec w) : Correlated codec w := by
  induction h with
  | init registry zone => exact Correlated.init codec registry zone
  | step e _ hs ih => exact ih.step hs

end Steps

/-! ### Arrival order and age -/

section Order

variable {V : Type} {cfg : Config} {codec : Codec V}

/-- The records the hook appends answer the helper bot. -/
theorem appendedBy_replies (proxyMode : Bool) (c : String) (m : Message) (zone : Zone)
    (now : Nat) (s : State) :
    ∀ rec ∈ appendedBy ((onBrokerMessageReceived proxyMode c m zone now).run s),
      topicSegment rec.topic 6 = some "helperbot" := by
  intro rec hm
  cases hr : (onBrokerMessageReceived proxyMode c m zone now).run s with
  | ok k s' => rw [hr] at hm; exact (appended_onBrokerMessageReceived hr rec hm).1
  | error e s' => rw [hr] at hm; cases hm

theorem pair_sublist_append {α : Type} {a b : α} {l₁ l₂ : List α} (ha : a ∈ l₁) (hb : b ∈ l₂) :
    [a, b] <+ l₁ ++ l₂ :=
  (List.singleton_sublist.2 ha).append (List.singleton_sublist.2 hb)

/-- The buffer holds replies the hook appended, in the order they arrived. -/
structure Arrived (w : World V) : Prop where
  sublist : w.server.commandResponses <+ appendedOf w.log
  replies : ∀ rec ∈ appendedOf w.log, topicSegment rec.topic 6 = some "helperbot"

theorem Arrived.step {w w' : World V} {e : Event V} (ha : Arrived w)
    (h : step cfg codec w e = some w') : Arrived w' := by
  obtain ⟨a1, a2⟩ := ha
  rcases step_cases h with ⟨h1, -, h3⟩ | ⟨c, m, now, rfl⟩ | ⟨cmd, r, now, rfl⟩ |
    ⟨i, wt, -, -, rfl | rfl⟩
  · exact ⟨by rw [h1, h3]; exact a1, by rw [h3]; exact a2⟩
  · have hsub := (received_buffer cfg.proxyMode c m w.zone now w.server).1
    have hr := appendedBy_replies cfg.proxyMode c m w.zone now w.server
    have happ : ∀ l l' : List Record,
        appendedOf (w.log ++ l.map .appended ++ l'.map (.pruned now)) = appendedOf w.log ++ l := by
      intro l l'; simp [appendedOf, List.filterMap_map, Function.comp_def]
    refine ⟨?_, fun rec hm => ?_⟩
    · simp only [World.received, happ]; exact hsub.trans (a1.append_right _)
    · simp only [World.received, happ] at hm; exact (List.mem_append.1 hm).elim (a2 rec) (hr rec)
  · have happ : appendedOf (w.sendCommand codec cmd r now).log = appendedOf w.log := by
      simp [World.sendCommand, appendedOf]
    exact ⟨happ ▸ a1, happ ▸ a2⟩
  · have happ : appendedOf (w.poll codec i wt).log = appendedOf w.log := by
      simp [World.poll, appendedOf, List.filterMap_map, Function.comp_def]
    exact ⟨happ ▸ (pollResponses_sublist _ _ _).trans a1, happ ▸ a2⟩
  · exact ⟨a1, a2⟩

theorem arrived_of_reachable {w : World V} (h : Reachable cfg codec w) : Arrived w := by
  induction h with
  | init registry zone => exact ⟨List.nil_sublist _, by simp [World.start, appendedOf]⟩
  | step e _ hs ih => exact ih.step hs

/-- Each record of the buffer, and each record a waiter took, was in the buffer when the waiter's
command was published, or was appended after it. -/
structure Fresh (w : World V) : Prop where
  commanded : ∀ i, i < w.waiters.length → ∃ snap, Obs.commanded i snap ∈ w.log
  buffer_since : ∀ i snap, Obs.commanded i snap ∈ w.log → ∀ rec ∈ w.server.commandResponses,
    rec ∈ snap ∨ [Obs.commanded i snap, Obs.appended rec] <+ w.log
  claimed_since : ∀ i rec, Obs.claimed i rec ∈ w.log → ∃ snap, Obs.commanded i snap ∈ w.log ∧
    (rec ∈ snap ∨ [Obs.commanded i snap, Obs.appended rec] <+ w.log)

/-- The log only grows: what it says stays said. -/
theorem Fresh.grow {w : World V} (hf : Fresh w) (l : List Obs) :
    (∀ i, i < w.waiters.length → ∃ snap, Obs.commanded i snap ∈ w.log ++ l) ∧
    (∀ i snap, Obs.commanded i snap ∈ w.log → ∀ rec ∈ w.server.commandResponses,
      rec ∈ snap ∨ [Obs.commanded i snap, Obs.appended rec] <+ w.log ++ l) ∧
    (∀ i rec, Obs.claimed i rec ∈ w.log → ∃ snap, Obs.commanded i snap ∈ w.log ++ l ∧
      (rec ∈ snap ∨ [Obs.commanded i snap, Obs.appended rec] <+ w.log ++ l)) := by
  obtain ⟨f1, f2, f3⟩ := hf
  have hl := List.sublist_append_left w.log l
  refine ⟨fun i hi => ?_, fun i snap hc rec hm => (f2 i snap hc rec hm).imp_right (·.trans hl),
    fun i rec hm => ?_⟩
  · obtain ⟨snap, hc⟩ := f1 i hi; exact ⟨snap, List.mem_append_left _ hc⟩
  · obtain ⟨snap, hc, h⟩ := f3 i rec hm
    exact ⟨snap, List.mem_append_left _ hc, h.imp_right (·.trans hl)⟩

theorem Fresh.quiet {w w' : World V} (hf : Fresh w) (hq : Quiet w w') : Fresh w' := by
  obtain ⟨h1, h2, h3⟩ := hq
  obtain ⟨f1, f2, f3⟩ := hf
  exact ⟨by rw [h2, h3]; exact f1, by rw [h1, h3]; exact f2, by rw [h3]; exact f3⟩

theorem Fresh.received {w : World V} (hf : Fresh w) (c : String) (m : Message) (now : Nat) :
    Fresh (w.received cfg c m now) := by
  have hsub := (received_buffer cfg.proxyMode c m w.zone now w.server).1
  simp only [World.received, List.append_assoc]
  generalize (onBrokerMessageReceived cfg.proxyMode c m w.zone now).run w.server = r at hsub ⊢
  obtain ⟨g1, g2, g3⟩ := hf.grow ((appendedBy r).map .appended ++
    ((w.server.commandResponses ++ appendedBy r).diff (finalState r).commandResponses).map
      (.pruned now))
  refine ⟨g1, fun i snap hc rec hm => ?_, fun i rec hm => g3 i rec ?_⟩
  · simp only [List.mem_append, List.mem_map, reduceCtorEq, and_false, exists_false,
      or_false] at hc
    rcases List.mem_append.1 (hsub.subset hm) with hm | hm
    · exact g2 i snap hc rec hm
    · exact .inr (pair_sublist_append hc (List.mem_append_left _ (List.mem_map_of_mem _ hm)))
  · simpa using hm

theorem Fresh.sendCommand {w : World V} (hf : Fresh w) (cmd : Command V) (r : String)
    (now : Nat) : Fresh (w.sendCommand codec cmd r now) := by
  obtain ⟨g1, g2, g3⟩ := hf.grow [.commanded w.waiters.length w.server.commandResponses]
  simp only [World.sendCommand]
  refine ⟨fun i hi => ?_, fun i snap hc rec hm => ?_, fun i rec hm => g3 i rec ?_⟩
  · rw [List.length_append, List.length_singleton] at hi
    rcases Nat.lt_succ_iff_lt_or_eq.1 hi with hi | rfl
    · exact g1 i hi
    · exact ⟨_, List.mem_append_right _ (List.mem_singleton_self _)⟩
  · simp only [List.mem_append, List.mem_singleton, Obs.commanded.injEq] at hc
    rcases hc with hc | ⟨-, rfl⟩
    · exact g2 i snap hc rec hm
    · exact .inl hm
  · simpa using hm

theorem Fresh.poll {w : World V} (hf : Fresh w) {i : Nat} {wt : Waiter V}
    (hwt : w.waiters[i]? = some wt) : Fresh (w.poll codec i wt) := by
  have hi := (List.getElem?_eq_some.1 hwt).1
  have hsub := pollResponses_sublist codec.loads wt.requestid w.server.commandResponses
  simp only [World.poll]
  generalize (pollResponses codec.loads wt.requestid).run w.server.commandResponses = r at hsub ⊢
  obtain ⟨g1, g2, g3⟩ :=
    hf.grow ((w.server.commandResponses.diff (finalState r)).map (.claimed i))
  refine ⟨fun j hj => g1 j (by simpa using hj), fun j snap hc rec hm => ?_, fun j rec hm => ?_⟩
  · simp only [List.mem_append, List.mem_map, reduceCtorEq, and_false, exists_false,
      or_false] at hc
    exact g2 j snap hc rec (hsub.subset hm)
  · simp only [List.mem_append, List.mem_map, Obs.claimed.injEq] at hm
    rcases hm with hm | ⟨rec', hd, rfl, rfl⟩
    · exact g3 j rec hm
    · obtain ⟨snap, hc⟩ := hf.commanded i hi
      exact ⟨snap, List.mem_append_left _ hc,
        (hf.buffer_since i snap hc rec' (List.diff_subset _ _ hd)).imp_right
          (·.trans (List.sublist_append_left _ _))⟩

theorem Fresh.finish {w : World V} (hf : Fresh w) (i : Nat) (wt : Waiter V) :
    Fresh (w.finish i wt) := by
  obtain ⟨f1, f2, f3⟩ := hf
  exact ⟨fun j hj => f1 j (by simpa [World.finish] using hj), f2, f3⟩

theorem Fresh.step {w w' : World V} {e : Event V} (hf : Fresh w)
    (h : step cfg codec w e = some w') : Fresh w' := by
  rcases step_cases h with hq | ⟨c, m, now, rfl⟩ | ⟨cmd, r, now, rfl⟩ | ⟨i, wt, hwt, -, rfl | rfl⟩
  · exact hf.quiet hq
  · exact hf.received c m now
  · exact hf.sendCommand cmd r now
  · exact hf.poll hwt
  · exact hf.finish i wt

end Order

/-! ### A run: a late reply -/

/-- Proxy mode off, no authentication, anonymous access allowed, no password file. -/
def plainConfig : Config := ⟨false, false, some true, ∅, fun _ _ => false⟩

/-- A reply of bot `bot@cls/res` to request `1` of the helper bot. -/
def replyTo1 : Message :=
  ⟨"iot/p2p/getX/bot/cls/res/helperbot/bumper/helperbot/p/1/x", .utf8 "ok", 0⟩

/-- The helper bot's command `getX` to that bot, with a payload of type `x`. -/
def getX : Command String := ⟨"getX", "bot", "cls", "res", "x", "q"⟩

/-- A command with request id `1` times out; its reply arrives late; a second command with request
id `1` is sent, and its waiter wakes up. -/
def lateReplyRun : List (Event String) :=
  [.sendCommand getX "1" 0, .timeout 0 60, .received "bot@cls/res" replyTo1 61,
    .sendCommand getX "1" 62, .poll 1 63]

/-- The world at the end of `lateReplyRun`. -/
def lateReplyWorld : World String :=
  (run plainConfig textCodec (World.init ⟨[], []⟩) lateReplyRun).getD (World.init ⟨[], []⟩)

theorem reachable_lateReplyWorld : Reachable plainConfig textCodec lateReplyWorld :=
  reachable_run plainConfig textCodec (.init _ _)
    (show run plainConfig textCodec (World.init ⟨[], []⟩) lateReplyRun = some lateReplyWorld
      from rfl)


/-! ### Every interleaving -/

section Runs

variable {V : Type} {cfg : Config} {codec : Codec V}

/-- **Every interleaving of hooks and waiters is safe for the replies.** In every reachable world:
a waiter that returned `ret: "ok"` took a record the message hook had appended, a reply to its
request id, and returned that record's payload decoded by segment 11; no record is taken more
often than it was appended, and no waiter takes more than one; only a waiter that returned a reply
took a record; every appended record is still in the buffer, or was taken, or was removed by the
expiry loop once expired. -/
theorem correlator_safety {w : World V} (h : Reachable cfg codec w) :
    (∀ i wt id resp, w.waiters[i]? = some wt → wt.result = some (.ok id resp) →
      ∃ rec, Obs.claimed i rec ∈ w.log ∧ Obs.appended rec ∈ w.log ∧ IsReplyTo id rec ∧
        DecodedAs codec.loads rec resp) ∧
    (∀ rec, (claimedOf w.log).count rec ≤ (appendedOf w.log).count rec) ∧
    (∀ i, (claimsOf i w.log).length ≤ 1) ∧
    (∀ i rec, Obs.claimed i rec ∈ w.log →
      ∃ wt resp, w.waiters[i]? = some wt ∧ wt.result = some (.ok wt.requestid resp)) ∧
    appendedOf w.log ~ w.server.commandResponses ++ claimedOf w.log ++ prunedOf w.log ∧
    (∀ now rec, Obs.pruned now rec ∈ w.log → expired w.zone now rec = true) := by
  have hc := correlated_of_reachable h
  have hcount : ∀ rec, (claimedOf w.log).count rec ≤ (appendedOf w.log).count rec := fun rec => by
    rw [hc.conservation.count_eq]; simp only [List.count_append]; omega
  refine ⟨fun i wt id resp hwt hres => ?_, hcount, hc.claims_le_one, fun i rec hm => ?_,
    hc.conservation, hc.pruned_expired⟩
  · obtain ⟨rec, hm, hrep, hdec⟩ := hc.reply_of_ok hwt hres
    have hpos : 0 < (claimedOf w.log).count rec :=
      List.count_pos_iff.2 (List.mem_filterMap.2 ⟨_, hm, rfl⟩)
    exact ⟨rec, hm, mem_appendedOf.1 (List.count_pos_iff.1 (hpos.trans_le (hcount rec))), hrep,
      hdec⟩
  · obtain ⟨wt, resp, hwt, hres, -⟩ := hc.claimed_ok i rec hm
    exact ⟨wt, resp, hwt, hres⟩

theorem correlator_safety_lateReplyWorld :
    (∀ i wt id resp, lateReplyWorld.waiters[i]? = some wt → wt.result = some (.ok id resp) →
      ∃ rec, Obs.claimed i rec ∈ lateReplyWorld.log ∧ Obs.appended rec ∈ lateReplyWorld.log ∧
        IsReplyTo id rec ∧ DecodedAs textCodec.loads rec resp) ∧
    (∀ rec, (claimedOf lateReplyWorld.log).count rec ≤ (appendedOf lateReplyWorld.log).count rec) ∧
    (∀ i, (claimsOf i lateReplyWorld.log).length ≤ 1) ∧
    (∀ i rec, Obs.claimed i rec ∈ lateReplyWorld.log →
      ∃ wt resp, lateReplyWorld.waiters[i]? = some wt ∧ wt.result = some (.ok wt.requestid resp)) ∧
    appendedOf lateReplyWorld.log ~
      lateReplyWorld.server.commandResponses ++ claimedOf lateReplyWorld.log ++
        prunedOf lateReplyWorld.log ∧
    (∀ now rec, Obs.pruned now rec ∈ lateReplyWorld.log →
      expired lateReplyWorld.zone now rec = true) :=
  correlator_safety reachable_lateReplyWorld

/-- A record whose topic has segment 6 `helperbot` but no segment 10, ahead of the reply in the
buffer, makes the waiter's scan raise `IndexError`: the waiter returns the failure dict and the
reply stays, where without that record the waiter returns the reply. -/
theorem short_topic_fails_waiter :
    ((run plainConfig textCodec (World.init ⟨[], []⟩)
        [.received "bot@cls/res" ⟨"a/b/c/d/e/f/helperbot", .utf8 "", 0⟩ 0,
          .received "bot@cls/res" replyTo1 0, .sendCommand getX "1" 1, .poll 0 2]).map
        fun w => (w.waiters.map (·.result), w.server.commandResponses.length)) =
      some ([some (timedOut "1")], 2) ∧
    ((run plainConfig textCodec (World.init ⟨[], []⟩)
        [.received "bot@cls/res" replyTo1 0, .sendCommand getX "1" 1, .poll 0 2]).map
        fun w => (w.waiters.map (·.result), w.server.commandResponses.length)) =
      some ([some (.ok "1" (.text "ok"))], 0) := by
  decide

/-- **The buffer keeps the replies in the order they arrived.** In every reachable world each
record of `command_responses` is a reply the hook appended (segment 6 `helperbot`), and the buffer
is a sublist of the appended records. -/
theorem buffer_in_arrival_order {w : World V} (h : Reachable cfg codec w) :
    w.server.commandResponses <+ appendedOf w.log ∧
      ∀ rec ∈ w.server.commandResponses, topicSegment rec.topic 6 = some "helperbot" :=
  have ha := arrived_of_reachable h
  ⟨ha.sublist, fun rec hm => ha.replies rec (ha.sublist.subset hm)⟩

theorem buffer_in_arrival_order_lateReplyWorld :
    lateReplyWorld.server.commandResponses <+ appendedOf lateReplyWorld.log ∧
      ∀ rec ∈ lateReplyWorld.server.commandResponses, topicSegment rec.topic 6 = some "helperbot" :=
  buffer_in_arrival_order reachable_lateReplyWorld

/-- The same reply delivered twice is appended twice: two records of the buffer have request id
`1`. -/
theorem duplicate_reply_buffered_twice :
    (run plainConfig textCodec (World.init ⟨[], []⟩)
        [.received "bot@cls/res" replyTo1 0, .received "bot@cls/res" replyTo1 1]).map
        (fun w => w.server.commandResponses.map fun rec => topicSegment rec.topic 10) =
      some [some "1", some "1"] := by
  decide

end Runs

end Bumper.System.Correlator
