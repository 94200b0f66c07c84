import MissionShell.Proofs.Server.Requests
import MissionShell.Proofs.Server.Script

/-!
# The books of the store

Requests come in between calls on the store itself: sessions that are created, used and removed
without a request, and sweeps. What is kept here beside the store are the identifiers it has issued
and how many sessions have been removed and evicted.

* `Service.Effect`, `Service.effect_step` : the status of an answer and what the request did to the
  store;
* `Service.Event`, `Service.Books`, `Service.books` : a run, and the books after it;
* `Service.Event.Kept`, `Service.Event.kept` : what one event does to the sessions and the counts;
* `Service.accounted_of_nodup` : the books are right, the statuses tell what was done, and a session
  that has ended is not found again.
-/

namespace MissionShell.Service

/-! ## What a call does to the sessions -/

theorem createSession_cases (s : Store) (now : Nat) (freshId : Uuid) (quest : Option String) :
    (createSession s now freshId quest).1.status = 404 ∧ (createSession s now freshId quest).2 = s ∨
      (createSession s now freshId quest).1.status = 201 ∧
        (createSession s now freshId quest).2.ids = s.ids ++ [freshId] := by
  unfold createSession
  cases hcreate : s.create now freshId quest with
  | error error => exact Or.inl ⟨rfl, rfl⟩
  | ok next =>
    have hids := Store.ids_create hcreate
    have hlive : freshId ∈ next.ids := by simp [hids]
    obtain ⟨e, he⟩ := Store.mem_ids_iff.mp hlive
    dsimp only
    rw [he]
    exact Or.inr ⟨rfl, hids⟩

theorem useSession_cases (s : Store) (now : Nat) (id : Uuid) (f : Engine → Json × Engine) :
    id ∉ s.ids ∧ (useSession s now id f).1.status = 404 ∧ (useSession s now id f).2 = s ∨
      id ∈ s.ids ∧ (useSession s now id f).1.status = 200 ∧ (useSession s now id f).2.ids = s.ids := by
  unfold useSession
  rcases s.withSession_cases now id f with ⟨hnone, herror⟩ | ⟨e, next, he, hok, -⟩
  · rw [herror]
    exact Or.inl ⟨Store.notMem_ids_iff.mpr hnone, rfl, rfl⟩
  · rw [hok]
    exact Or.inr ⟨Store.mem_ids_iff.mpr ⟨e, he⟩, rfl, Store.ids_withSession hok⟩

theorem removeSession_cases (s : Store) (id : Uuid) :
    id ∉ s.ids ∧ (removeSession s id).1.status = 404 ∧ (removeSession s id).2 = s ∨
      id ∈ s.ids ∧ (removeSession s id).1.status = 204 ∧
        (removeSession s id).2.ids = s.ids.filter (· ≠ id) := by
  unfold removeSession
  rcases s.remove_cases id with ⟨hnone, herror⟩ | ⟨e, next, he, hok, -⟩
  · rw [herror]
    exact Or.inl ⟨Store.notMem_ids_iff.mpr hnone, rfl, rfl⟩
  · rw [hok]
    exact Or.inr ⟨Store.mem_ids_iff.mpr ⟨e, he⟩, rfl, Store.ids_remove hok⟩

inductive Effect (s : Store) (a : Arrival) : Nat → Store → Prop where
  | refused {status : Nat} (hstatus : status ∈ refusals) (hnone : ∀ id, ¬ Addresses a.request id) :
      Effect s a status s
  | missing {id : Uuid} (haddr : Addresses a.request id) (hid : id ∉ s.ids) : Effect s a 404 s
  | healthy (hnone : ∀ id, ¬ Addresses a.request id) : Effect s a 200 s
  | created {next : Store} (hnone : ∀ id, ¬ Addresses a.request id)
      (hids : next.ids = s.ids ++ [a.freshId]) : Effect s a 201 next
  | used {next : Store} {id : Uuid} (haddr : Addresses a.request id) (hid : id ∈ s.ids)
      (hids : next.ids = s.ids) : Effect s a 200 next
  | removed {next : Store} {id : Uuid} (haddr : Addresses a.request id)
      (hmethod : a.request.method = .delete) (hid : id ∈ s.ids)
      (hids : next.ids = s.ids.filter (· ≠ id)) : Effect s a 204 next

theorem effect_useSession {s : Store} {a : Arrival} {id : Uuid} (haddr : Addresses a.request id)
    (f : Engine → Json × Engine) :
    Effect s a (useSession s a.now id f).1.status (useSession s a.now id f).2 := by
  rcases useSession_cases s a.now id f with ⟨hid, hstatus, hsame⟩ | ⟨hid, hstatus, hids⟩
  · rw [hstatus, hsame]
    exact .missing haddr hid
  · rw [hstatus]
    exact .used haddr hid hids

theorem effect_perform {a : Arrival} {c : Call} (h : Call.ofRequest a.request = .ok c) (s : Store) :
    Effect s a (perform s a.now a.freshId c).1.status (perform s a.now a.freshId c).2 := by
  have haddr := addresses_iff h
  cases c with
  | health => exact .healthy fun id hid => nomatch (haddr id).mp hid
  | create quest =>
    have hnone : ∀ id, ¬ Addresses a.request id := fun id hid => nomatch (haddr id).mp hid
    rw [perform]
    rcases createSession_cases s a.now a.freshId quest with ⟨hstatus, hsame⟩ | ⟨hstatus, hids⟩
    · rw [hstatus, hsame]
      exact .refused (by decide) hnone
    · rw [hstatus]
      exact .created hnone hids
  | remove id =>
    obtain ⟨hid, hmethod⟩ := Addresses.of_call h rfl
    rw [perform]
    rcases removeSession_cases s id with ⟨hmissing, hstatus, hsame⟩ | ⟨hlive, hstatus, hids⟩
    · rw [hstatus, hsame]
      exact .missing hid hmissing
    · rw [hstatus]
      exact .removed hid (hmethod rfl) hlive hids
  | inspect id | submit id _ | reset id => exact effect_useSession ((haddr id).mpr rfl) _

theorem status_answer_of_ok {a : Arrival} {c : Call} (h : Call.ofRequest a.request = .ok c) (s : Store) :
    (answer s a).status = (perform s a.now a.freshId c).1.status := by
  rw [answer_of_ok h]
  split_ifs <;> rfl

theorem status_answer_of_error {a : Arrival} {status : Nat}
    (h : Call.ofRequest a.request = .error status) (s : Store) : (answer s a).status = status := by
  rw [answer, handle, h]
  dsimp only
  split_ifs <;> rfl

theorem effect_step (s : Store) (a : Arrival) : Effect s a (answer s a).status (step s a) := by
  cases hcall : Call.ofRequest a.request with
  | error status =>
    rw [status_answer_of_error hcall, step, handle, hcall]
    exact .refused (refusal_of_ofRequest hcall) (not_addresses_of_error hcall)
  | ok c =>
    rw [status_answer_of_ok hcall, step_of_ok hcall]
    exact effect_perform hcall s

/-! ## What the status tells -/

/-- The status of the answer to a request tells what the request did to the sessions. -/
structure Truthful (s : Store) (a : Arrival) : Prop where
  refused : (answer s a).accepted = false → step s a = s
  created : (answer s a).status = 201 →
    a.freshId ∉ s.ids ∧ (step s a).ids = s.ids ++ [a.freshId]
  removed : (answer s a).status = 204 → ∃ id, Addresses a.request id ∧ a.request.method = .delete ∧
    id ∈ s.ids ∧ (step s a).ids = s.ids.filter (· ≠ id)
  kept : (answer s a).status ≠ 201 → (answer s a).status ≠ 204 → (step s a).ids = s.ids
  missing : ∀ id, Addresses a.request id → ((answer s a).status = 404 ↔ id ∉ s.ids)

theorem Effect.same_of_not_accepted {s next : Store} {a : Arrival} {status : Nat}
    (h : Effect s a status next) (hrefused : (Response.ofStatus status).accepted = false) :
    next = s := by
  cases h with
  | refused | missing | healthy => rfl
  | created | used | removed => exact absurd hrefused (by decide)

theorem Effect.ids_of_created {s next : Store} {a : Arrival} (h : Effect s a 201 next) :
    next.ids = s.ids ++ [a.freshId] := by
  cases h with
  | refused hstatus => exact absurd hstatus (by decide)
  | created hnone hids => exact hids

theorem Effect.ids_of_removed {s next : Store} {a : Arrival} (h : Effect s a 204 next) :
    ∃ id, Addresses a.request id ∧ a.request.method = .delete ∧ id ∈ s.ids ∧
      next.ids = s.ids.filter (· ≠ id) := by
  cases h with
  | refused hstatus => exact absurd hstatus (by decide)
  | removed haddr hmethod hid hids => exact ⟨_, haddr, hmethod, hid, hids⟩

theorem Effect.ids_kept {s next : Store} {a : Arrival} {status : Nat} (h : Effect s a status next)
    (hcreated : status ≠ 201) (hremoved : status ≠ 204) : next.ids = s.ids := by
  cases h with
  | refused | missing | healthy => rfl
  | created => exact absurd rfl hcreated
  | used haddr hid hids => exact hids
  | removed => exact absurd rfl hremoved

theorem Effect.missing_iff {s next : Store} {a : Arrival} {status : Nat} (h : Effect s a status next)
    {id : Uuid} (haddr : Addresses a.request id) : status = 404 ↔ id ∉ s.ids := by
  cases h with
  | refused hstatus hnone => exact absurd haddr (hnone id)
  | healthy hnone => exact absurd haddr (hnone id)
  | created hnone => exact absurd haddr (hnone id)
  | missing hother hid => simpa [haddr.unique hother] using hid
  | used hother hid => simpa [haddr.unique hother] using hid
  | removed hother hmethod hid => simpa [haddr.unique hother] using hid

theorem truthful {s : Store} {a : Arrival} (hfresh : (answer s a).status = 201 → a.freshId ∉ s.ids) :
    Truthful s a where
  refused := (effect_step s a).same_of_not_accepted
  created h := ⟨hfresh h, (h ▸ effect_step s a).ids_of_created⟩
  removed h := (h ▸ effect_step s a).ids_of_removed
  kept := (effect_step s a).ids_kept
  missing _ := (effect_step s a).missing_iff

/-! ## Events and books -/

inductive Event : Type 1 where
  | request (a : Arrival)
  | create (now : Nat) (freshId : Uuid) (quest : Option String)
  | remove (id : Uuid)
  | withSession {α : Type} (now : Nat) (id : Uuid) (f : Engine → α × Engine)
  | sweep (now maxIdle : Nat)

namespace Event

/-- The store after an event. A call that fails leaves the store. -/
def next (s : Store) : Event → Store
  | request a => step s a
  | create now freshId quest => (s.create now freshId quest).toOption.getD s
  | remove id => (s.remove id).toOption.getD s
  | withSession now id f => ((s.withSession now id f).toOption.map Prod.snd).getD s
  | sweep now maxIdle => s.sweep now maxIdle

def issued? (s : Store) : Event → Option Uuid
  | request a => if (answer s a).status = 201 then some a.freshId else none
  | create now freshId quest => if (s.create now freshId quest).isOk then some freshId else none
  | remove _ | withSession _ _ _ | sweep _ _ => none

def removals (s : Store) : Event → Nat
  | request a => if (answer s a).status = 204 then 1 else 0
  | remove id => if (s.remove id).isOk then 1 else 0
  | create _ _ _ | withSession _ _ _ | sweep _ _ => 0

def evictions (s : Store) : Event → Nat
  | sweep now maxIdle => s.swept now maxIdle
  | request _ | create _ _ _ | remove _ | withSession _ _ _ => 0

/-- The event is the end of the session `id`, which was live before it. -/
def Ends (s : Store) (e : Event) (id : Uuid) : Prop := id ∈ s.ids ∧ id ∉ (e.next s).ids

end Event

/-- The store, with the identifiers that were issued for its sessions, and how many of these have
been removed and evicted. -/
structure Books where
  store : Store := .empty
  issued : List Uuid := []
  removed : Nat := 0
  evicted : Nat := 0

def Books.enter (b : Books) (e : Event) : Books where
  store := e.next b.store
  issued := b.issued ++ (e.issued? b.store).toList
  removed := b.removed + e.removals b.store
  evicted := b.evicted + e.evictions b.store

def books (events : List Event) : Books := events.foldl Books.enter {}

/-! ## One event -/

/-- What an event does to the sessions: it adds the one that it creates, or it drops as many as it
counts. -/
inductive Event.Kept (s : Store) (e : Event) : Prop where
  | added {id : Uuid} (hissued : e.issued? s = some id) (hids : (e.next s).ids = s.ids ++ [id])
      (hremoved : e.removals s = 0) (hevicted : e.evictions s = 0)
  | dropped (hissued : e.issued? s = none) (hids : (e.next s).ids.Sublist s.ids)
      (hsize : (e.next s).size + e.removals s + e.evictions s = s.size)

theorem Event.Kept.of_same {s : Store} {e : Event} (hissued : e.issued? s = none)
    (hremoved : e.removals s = 0) (hevicted : e.evictions s = 0) (hids : (e.next s).ids = s.ids) :
    e.Kept s := by
  refine .dropped hissued (hids ▸ List.Sublist.refl _) ?_
  rw [hremoved, hevicted, ← Store.length_ids, hids, Store.length_ids]
  rfl

theorem Event.Kept.of_removed {s : Store} (hdistinct : s.ids.Nodup) {e : Event} {id : Uuid}
    (hissued : e.issued? s = none) (hremoved : e.removals s = 1) (hevicted : e.evictions s = 0)
    (hid : id ∈ s.ids) (hids : (e.next s).ids = s.ids.filter (· ≠ id)) : e.Kept s := by
  refine .dropped hissued (hids ▸ List.filter_sublist) ?_
  rw [hremoved, hevicted, ← Store.length_ids, ← Store.length_ids, hids]
  exact Store.length_filter_ne hdistinct hid

theorem Event.kept_request {s : Store} (hdistinct : s.ids.Nodup) (a : Arrival) :
    (Event.request a).Kept s := by
  have heffect := effect_step s a
  by_cases hcreated : (answer s a).status = 201
  · rw [hcreated] at heffect
    exact .added (if_pos hcreated) heffect.ids_of_created (by simp [removals, hcreated]) rfl
  · by_cases hremoved : (answer s a).status = 204
    · rw [hremoved] at heffect
      obtain ⟨id, -, -, hid, hids⟩ := heffect.ids_of_removed
      exact .of_removed hdistinct (if_neg hcreated) (if_pos hremoved) rfl hid hids
    · exact .of_same (if_neg hcreated) (if_neg hremoved) rfl (heffect.ids_kept hcreated hremoved)

theorem Event.kept {s : Store} (hdistinct : s.ids.Nodup) (e : Event) : e.Kept s := by
  cases e with
  | request a => exact kept_request hdistinct a
  | create now freshId quest =>
    cases hcreate : s.create now freshId quest with
    | error error =>
      refine .of_same ?_ rfl rfl ?_
      · rw [issued?, hcreate]
        rfl
      · rw [next, hcreate]
        rfl
    | ok s' =>
      have hissued : issued? s (create now freshId quest) = some freshId := by
        rw [issued?, hcreate]
        rfl
      refine .added hissued ?_ rfl rfl
      rw [next, hcreate]
      exact Store.ids_create hcreate
  | remove id =>
    rcases s.remove_cases id with ⟨-, herror⟩ | ⟨e, s', he, hok, -⟩
    · refine .of_same rfl ?_ rfl ?_
      · rw [removals, herror]
        rfl
      · rw [next, herror]
        rfl
    · refine .of_removed hdistinct rfl ?_ rfl (Store.mem_ids_iff.mpr ⟨e, he⟩) ?_
      · rw [removals, hok]
        rfl
      · rw [next, hok]
        exact Store.ids_remove hok
  | withSession now id f =>
    refine .of_same rfl rfl rfl ?_
    rw [next]
    rcases s.withSession_cases now id f with ⟨-, herror⟩ | ⟨e, s', -, hok, -⟩
    · rw [herror]
      rfl
    · rw [hok]
      exact Store.ids_withSession hok
  | sweep now maxIdle =>
    exact .dropped rfl (s.ids_sweep_sublist now maxIdle) (s.size_sweep now maxIdle)

/-! ## Runs -/

/-- Live sessions have identifiers of their own, which were issued, and every session that was
created is live, removed or evicted. -/
structure Books.Sound (b : Books) : Prop where
  distinct : b.store.ids.Nodup
  issued : ∀ id ∈ b.store.ids, id ∈ b.issued
  balance : b.store.size + b.removed + b.evicted = b.issued.length

/-- A new identifier was never issued before. -/
theorem Books.notMem_issued {b : Books} {e : Event} (hfresh : (b.enter e).issued.Nodup) {id : Uuid}
    (hid : e.issued? b.store = some id) : id ∉ b.issued := by
  rw [enter, hid, Option.toList_some, ← List.concat_eq_append, List.nodup_concat] at hfresh
  exact hfresh.1

theorem Books.Sound.enter {b : Books} (h : b.Sound) {e : Event} (hfresh : (b.enter e).issued.Nodup) :
    (b.enter e).Sound := by
  have hbalance := h.balance
  cases e.kept h.distinct with
  | @added id hissued hids hremoved hevicted =>
    have hnew : id ∉ b.store.ids := fun hid => Books.notMem_issued hfresh hissued (h.issued id hid)
    refine ⟨?_, ?_, ?_⟩
    · rw [Books.enter, hids, ← List.concat_eq_append]
      exact h.distinct.concat hnew
    · intro other hother
      simp only [Books.enter, hids, hissued, Option.toList_some, List.mem_append] at hother ⊢
      exact hother.imp_left (h.issued other)
    · simp only [Books.enter, hissued, hremoved, hevicted, ← Store.length_ids, hids] at hbalance ⊢
      simp only [List.length_append, Option.toList_some, List.length_singleton]
      omega
  | dropped hissued hids hsize =>
    refine ⟨hids.nodup h.distinct, ?_, ?_⟩
    · intro id hid
      exact List.mem_append_left _ (h.issued id (hids.subset hid))
    · simp only [Books.enter, hissued, Option.toList_none, List.append_nil]
      omega

/-- A session that was created and is not live does not come back. -/
theorem Books.Sound.gone {b : Books} (h : b.Sound) {e : Event} (hfresh : (b.enter e).issued.Nodup)
    {id : Uuid} (hissued : id ∈ b.issued) (hid : id ∉ b.store.ids) :
    id ∈ (b.enter e).issued ∧ id ∉ (b.enter e).store.ids := by
  refine ⟨List.mem_append_left _ hissued, fun hback => ?_⟩
  cases e.kept h.distinct with
  | @added new hnew hids =>
    rw [Books.enter, hids, List.mem_append, List.mem_singleton] at hback
    rcases hback with hback | rfl
    · exact hid hback
    · exact Books.notMem_issued hfresh hnew hissued
  | dropped hnew hids => exact hid (hids.subset hback)

theorem books_append_singleton (events : List Event) (e : Event) :
    books (events ++ [e]) = (books events).enter e := by
  simp [books]

theorem nodup_issued_of_append {before after : List Event} (h : (books (before ++ after)).issued.Nodup) :
    (books before).issued.Nodup := by
  induction after using List.reverseRecOn with
  | nil => rwa [List.append_nil] at h
  | append_singleton after e ih =>
    rw [← List.append_assoc, books_append_singleton] at h
    exact ih (List.Nodup.of_append_left h)

theorem sound_books {events : List Event} (h : (books events).issued.Nodup) : (books events).Sound := by
  induction events using List.reverseRecOn with
  | nil => exact ⟨List.nodup_nil, fun _ hid => hid, rfl⟩
  | append_singleton events e ih =>
    have hsound := ih (nodup_issued_of_append h)
    rw [books_append_singleton] at h ⊢
    exact hsound.enter h

theorem gone_books {before after : List Event} (h : (books (before ++ after)).issued.Nodup) {id : Uuid}
    (hissued : id ∈ (books before).issued) (hid : id ∉ (books before).store.ids) :
    id ∈ (books (before ++ after)).issued ∧ id ∉ (books (before ++ after)).store.ids := by
  induction after using List.reverseRecOn with
  | nil => exact ⟨by rwa [List.append_nil], by rwa [List.append_nil]⟩
  | append_singleton after e ih =>
    rw [← List.append_assoc] at h ⊢
    have hprefix := nodup_issued_of_append h
    obtain ⟨hissued', hid'⟩ := ih hprefix
    rw [books_append_singleton] at h ⊢
    exact (sound_books hprefix).gone h hissued' hid'

/-- What the books of a run tell: how many sessions are live, what the requests did by the status of
their answers, and that the end of a session is final. -/
structure Accounted (events : List Event) : Prop where
  distinct : (books events).store.ids.Nodup
  balance : (books events).store.size + (books events).removed + (books events).evicted =
    (books events).issued.length
  requests : ∀ before a after, events = before ++ .request a :: after →
    Truthful (books before).store a
  ended : ∀ before e between a after, events = before ++ e :: between ++ .request a :: after →
    ∀ id, e.Ends (books before).store id → Addresses a.request id →
    (answer (books (before ++ e :: between)).store a).status = 404

theorem truthful_books {before : List Event} {a : Arrival}
    (h : (books (before ++ [.request a])).issued.Nodup) : Truthful (books before).store a := by
  have hsound := sound_books (nodup_issued_of_append h)
  refine truthful fun hcreated hlive => ?_
  rw [books_append_singleton] at h
  exact Books.notMem_issued h (if_pos hcreated) (hsound.issued _ hlive)

/-- **The books of the store are right**: in every run that issues no identifier twice the live
sessions are those created less those removed and evicted, an answer's status tells what the request
did to them, and requests for a session that has ended are answered 404. -/
theorem accounted_of_nodup {events : List Event} (h : (books events).issued.Nodup) :
    Accounted events where
  distinct := (sound_books h).distinct
  balance := (sound_books h).balance
  requests before a after hevents := by
    rw [hevents, List.append_cons] at h
    exact truthful_books (nodup_issued_of_append h)
  ended before e between a after hevents id hends haddr := by
    rw [hevents, List.append_cons] at h
    have hrequest := nodup_issued_of_append h
    have hrun := nodup_issued_of_append hrequest
    refine ((truthful_books hrequest).missing id haddr).mpr ?_
    rw [List.append_cons] at hrun ⊢
    have hfirst := nodup_issued_of_append hrun
    have hsound := sound_books (nodup_issued_of_append hfirst)
    refine (gone_books hrun ?_ ?_).2
    · rw [books_append_singleton]
      exact List.mem_append_left _ (hsound.issued id hends.1)
    · rw [books_append_singleton]
      exact hends.2

def lateReset : Arrival := ⟨9, ⟨2⟩, (Call.reset ⟨0⟩).request⟩

def removal : Arrival := ⟨11, ⟨3⟩, (Call.remove ⟨1⟩).request⟩

def sweptSession : List Event := [
  .request ⟨0, ⟨0⟩, (Call.create none).request⟩,
  .request ⟨1, ⟨1⟩, (Call.create none).request⟩,
  .withSession 8 ⟨1⟩ fun e => (e.prompt, e.reset),
  .sweep 9 5,
  .request lateReset,
  .create 10 ⟨2⟩ none,
  .request removal,
  .remove ⟨1⟩]

/-- The session that was swept away is not found, and the other one can be removed. -/
theorem accounted_sweptSession : (books sweptSession).issued.Nodup ∧ Accounted sweptSession ∧
    (answer (books (sweptSession.take 4)).store lateReset).status = 404 ∧
    (answer (books (sweptSession.take 6)).store removal).status = 204 := by
  have hnodup : (books sweptSession).issued.Nodup := by decide +kernel
  have haccounted := accounted_of_nodup hnodup
  have hswept : (Event.sweep 9 5).Ends (books (sweptSession.take 3)).store ⟨0⟩ := by
    unfold Event.Ends
    decide +kernel
  have haddr : Addresses lateReset.request ⟨0⟩ := (addresses_request (.reset ⟨0⟩) ⟨0⟩).mpr rfl
  have hmissing := haccounted.ended (sweptSession.take 3) (.sweep 9 5) [] lateReset
    (sweptSession.drop 5) rfl ⟨0⟩ hswept haddr
  exact ⟨hnodup, haccounted, hmissing, by decide +kernel⟩

end MissionShell.Service
