import MachineKeeper.Proofs.Iso
import MachineKeeper.Proofs.Lifecycle

/-! What becomes of a machine's volumes when it is created. Those that are there already are removed,
whatever they are good for: no step before the domain is defined looks at domains. -/
namespace MachineKeeper

/-- A volume was deleted. -/
def Event.Deletes (pool volume : String) : Event → Prop
  | .request r _ outcome => r = .deleteVolume pool volume ∧ outcome.isDone = true
  | _ => False

namespace Lifecycle

open Session MachineKeeper.Action

variable {w w₁ w' : World} {pool volume : String}

/-- The volume is what it was, and it was not deleted in between. -/
structure Untouched (pool volume : String) (w w' : World) : Prop where
  same : w'.host.volume? pool volume = w.host.volume? pool volume
  kept : Logs (fun e => ¬ e.Deletes pool volume) w w'

/-- The volume was deleted, whatever came in its place. -/
def Deleted (pool volume : String) (w w' : World) : Prop :=
  ∃ events, w'.log = events ++ w.log ∧ ∃ e ∈ events, e.Deletes pool volume

theorem untouched_frame : Frame (Untouched pool volume) where
  refl w := ⟨rfl, logs_frame.refl w⟩
  trans first second :=
    ⟨second.same.trans first.same, logs_frame.trans first.kept second.kept⟩

theorem Deleted.not_untouched (deleted : Deleted pool volume w w') : ¬ Untouched pool volume w w' := by
  intro untouched
  obtain ⟨events, log, e, member, deletes⟩ := deleted
  obtain ⟨events', log', kept⟩ := untouched.kept
  obtain rfl := events_unique (log.symm.trans log')
  exact kept e member deletes

theorem Deleted.before {P : Event → Prop} (deleted : Deleted pool volume w w₁) (later : Logs P w₁ w') :
    Deleted pool volume w w' :=
  Shows.before deleted later

theorem Deleted.behind {P : Event → Prop} (earlier : Logs P w w₁) (deleted : Deleted pool volume w₁ w') :
    Deleted pool volume w w' :=
  Shows.behind earlier deleted

theorem reaches_untouched {ok : Request → Prop} (path : Reaches ok w w') (quiet : w.Undisturbed)
    (others : ∀ r, ok r → r.volume? ≠ some (pool, volume)) : Untouched pool volume w w' := by
  refine ⟨path.volume quiet others, path.logs.mono ?_⟩
  intro e within deletes
  cases e with
  | request r _ _ => exact others r within (by rw [deletes.1]; rfl)
  | connect _ => exact deletes
  | disconnect => exact deletes

theorem Idle.untouched {event : Event} (idle : Idle event w w')
    (other : ¬ event.Deletes pool volume) : Untouched pool volume w w' :=
  ⟨Host.volume?_of_objects idle.objects pool volume, .one idle.log other⟩

/-- The requests with which a volume is removed get through. -/
def Clearable (w : World) : Prop := w.Hears .volumePath 1 ∧ w.Hears .deleteVolume 1

theorem deleteIfThere_missing {o : Outcome Error Unit} (quiet : w.Undisturbed)
    (missing : w.host.volume? pool volume = none) (run : deleteIfThere pool volume w = (o, w')) :
    o = .done () ∧ w'.host = w.host ∧ Reaches (Removes pool [volume]) w w' ∧
      ∀ call n, 0 < n → (w'.Hears call n ↔ w.Hears call (n + if call = .volumePath then 1 else 0)) := by
  have path := (deleteIfThere_reaches (List.mem_singleton_self volume)).of_run run
  obtain ⟨o₁, w₁, asked⟩ : ∃ o₁ w₁, send (.volumePath pool volume) w = (o₁, w₁) := ⟨_, _, rfl⟩
  have failed : (∃ e, o₁ = .failed e) ∧ w₁.host = w.host := by
    rcases send_cases quiet asked with ⟨e, _, rfl, _, same, _⟩ | ⟨answer, _⟩
    · exact ⟨⟨e, rfl⟩, same⟩
    · obtain ⟨e, absent⟩ := Host.answer_volumePath_missing missing
      obtain ⟨rfl, same⟩ := Prod.mk.inj (answer.symm.trans absent)
      exact ⟨⟨e, rfl⟩, same⟩
  obtain ⟨⟨e, rfl⟩, same⟩ := failed
  have end₁ : deleteIfThere pool volume w = (.done (), w₁) := by
    rw [deleteIfThere, bind_of_done (attempt_of_failed asked)]
    rfl
  obtain ⟨rfl, rfl⟩ := Prod.mk.inj (run.symm.trans end₁)
  exact ⟨rfl, same, path, fun call n => send_hears quiet asked⟩

theorem deleteIfThere_cleared {volumes : Table Volume} {found : Volume} {o : Outcome Error Unit}
    (quiet : w.Undisturbed) (there : w.host.pools[pool]? = some volumes)
    (member : volumes[volume]? = some found) (clearable : Clearable w)
    (run : deleteIfThere pool volume w = (o, w')) :
    o = .done () ∧ w'.host = w.host.setPool pool (volumes.erase volume) ∧
      Deleted pool volume w w' ∧ ∀ call n, 0 < n → (w'.Hears call n ↔ w.Hears call
        (n + (if call = .deleteVolume then 1 else 0) + if call = .volumePath then 1 else 0)) := by
  obtain ⟨w₁, asked, same, log⟩ :=
    send_answered quiet (Host.answer_volumePath there member) clearable.1
  have quiet₁ := send_undisturbed quiet asked
  have heard : w₁.Hears .deleteVolume 1 := (send_hears quiet asked (by decide)).mpr clearable.2
  rw [← same] at there ⊢
  obtain ⟨w₂, deleted, same', log'⟩ :=
    send_answered quiet₁ (Host.answer_deleteVolume there member) heard
  have end₂ : deleteIfThere pool volume w = (.done (), w₂) := by
    rw [deleteIfThere, bind_of_done (attempt_of_done asked)]
    exact bind_of_done (attempt_of_done deleted)
  obtain ⟨rfl, rfl⟩ := Prod.mk.inj (run.symm.trans end₂)
  refine ⟨rfl, same', ⟨[.request (.deleteVolume pool volume) true (.done ()),
    .request (.volumePath pool volume) true (.done found.path)], by rw [log', log]; rfl, _,
    List.mem_cons_self, rfl, rfl⟩, ?_⟩
  intro call n later
  rw [send_hears quiet₁ deleted later, send_hears quiet asked (by omega)]
  rfl

/-- Unless the requests are held up, there is no volume of the name when this is over. -/
theorem deleteIfThere_free {volumes : Table Volume} {o : Outcome Error Unit}
    (quiet : w.Undisturbed) (there : w.host.pools[pool]? = some volumes)
    (clear : volume ∈ volumes → Clearable w) (run : deleteIfThere pool volume w = (o, w')) :
    o = .done () ∧ w'.host = w.host.setPool pool (volumes.erase volume) ∧
      ∀ call n, 0 < n → (w'.Hears call n ↔ w.Hears call
        (n + (if call = .deleteVolume ∧ volume ∈ volumes then 1 else 0) +
          if call = .volumePath then 1 else 0)) := by
  cases found : volumes[volume]? with
  | none =>
    have missing : w.host.volume? pool volume = none := by simp [Host.volume?, there, found]
    have absent : volume ∉ volumes := fun member =>
      (Host.volume?_ne_none there).mpr member missing
    obtain ⟨ended, same, _, hears⟩ := deleteIfThere_missing quiet missing run
    refine ⟨ended, by rw [same, Host.setPool_erase_missing there found], fun call n later => ?_⟩
    simpa [absent] using hears call n later
  | some old =>
    have member : volume ∈ volumes := Table.mem_of_found found
    obtain ⟨ended, same, _, hears⟩ := deleteIfThere_cleared quiet there found (clear member) run
    refine ⟨ended, same, fun call n later => ?_⟩
    simpa [member] using hears call n later

theorem deleteIfThere_kept {volumes : Table Volume} {found : Volume} {o : Outcome Error Unit}
    (quiet : w.Undisturbed) (there : w.host.pools[pool]? = some volumes)
    (member : volumes[volume]? = some found) (blocked : ¬ Clearable w)
    (run : deleteIfThere pool volume w = (o, w')) :
    o = .done () ∧ w'.host = w.host ∧ Untouched pool volume w w' := by
  by_cases heard : w.Hears .volumePath 1
  · obtain ⟨w₁, asked, same, log⟩ := send_answered quiet (Host.answer_volumePath there member) heard
    obtain ⟨o₂, w₂, deleted⟩ : ∃ o₂ w₂, send (.deleteVolume pool volume) w₁ = (o₂, w₂) := ⟨_, _, rfl⟩
    have unheard : ¬ w₁.Hears .deleteVolume 1 := fun heard' =>
      blocked ⟨heard, (send_hears quiet asked (by decide)).mp heard'⟩
    obtain ⟨e, reached, rfl, same', log'⟩ :=
      send_unheard (send_undisturbed quiet asked) deleted unheard
    have end₂ : deleteIfThere pool volume w = (.done (), w₂) := by
      rw [deleteIfThere, bind_of_done (attempt_of_done asked)]
      exact bind_of_done (attempt_of_failed deleted)
    obtain ⟨rfl, rfl⟩ := Prod.mk.inj (run.symm.trans end₂)
    have host : w'.host = w.host := same'.trans same
    refine ⟨rfl, host, by rw [host], logs_frame.trans (.one log ?_) (.one log' ?_)⟩
    · exact fun deletes => nomatch deletes.1
    · exact fun deletes => nomatch deletes.2
  · obtain ⟨o₁, w₁, asked⟩ : ∃ o₁ w₁, send (.volumePath pool volume) w = (o₁, w₁) := ⟨_, _, rfl⟩
    obtain ⟨e, reached, rfl, same, log⟩ := send_unheard quiet asked heard
    have end₁ : deleteIfThere pool volume w = (.done (), w₁) := by
      rw [deleteIfThere, bind_of_done (attempt_of_failed asked)]
      rfl
    obtain ⟨rfl, rfl⟩ := Prod.mk.inj (run.symm.trans end₁)
    refine ⟨rfl, same, by rw [same], .one log ?_⟩
    exact fun deletes => nomatch deletes.1

def landed (h : Host) (image : Bytes) : Bytes :=
  if h.corruptsUploads then Host.corrupted image else image

def seedVolume (h : Host) (pool volume : String) (image : Bytes) : Volume :=
  { Volume.create pool (.raw volume image.length.toUInt64) with content := .written (landed h image) }

/-- What is done once there is no volume of this name. -/
def fillSeedVolume (pool volume : String) (image : Bytes) : Action Error String := do
  let path ← ask s!"failed to create cloud-init storage volume '{volume}'"
    (.createVolume pool (.raw volume image.length.toUInt64))
  ask s!"failed to upload cloud-init ISO to '{volume}'" (.uploadVolume pool volume image)
  let content ← ask s!"failed to download cloud-init ISO from '{volume}'"
    (.downloadVolume pool volume)
  if content.bytes ≠ image then
    .fail (.uploadMismatch volume image.length content.size)
  else
    return path

theorem createSeedVolume_eq (pool volume : String) (image : Bytes) :
    createSeedVolume pool volume image = (do
      deleteIfThere pool volume
      fillSeedVolume pool volume image) := rfl

/-- What is asked to make a volume and to read it back. -/
def Fills (pool volume : String) : Request → Prop
  | .createVolume p d => p = pool ∧ d.name = volume
  | .uploadVolume p v _ | .downloadVolume p v => p = pool ∧ v = volume
  | _ => False

theorem fillSeedVolume_reaches (pool volume : String) (image : Bytes) :
    (fillSeedVolume pool volume image).Keeps (Reaches (Fills pool volume)) := by
  apply reaches_frame.bind (reaches_ask _ (by exact ⟨rfl, rfl⟩))
  intro path
  apply reaches_frame.bind (reaches_ask _ (by exact ⟨rfl, rfl⟩))
  intro _
  apply reaches_frame.bind (reaches_ask _ (by exact ⟨rfl, rfl⟩))
  intro content
  split
  · exact reaches_frame.fail _
  · exact reaches_frame.pure path

/-- The requests with which a seed volume is made get through. -/
def Fillable (w : World) : Prop :=
  w.Hears .createVolume 1 ∧ w.Hears .uploadVolume 1 ∧ w.Hears .downloadVolume 1

theorem fillSeedVolume_heard {volumes : Table Volume} {image : Bytes} {o : Outcome Error String}
    (quiet : w.Undisturbed) (there : w.host.pools[pool]? = some volumes)
    (absent : volume ∉ volumes) (fits : image.length < UInt64.size) (fillable : Fillable w)
    (run : fillSeedVolume pool volume image w = (o, w')) :
    w'.host = w.host.setPool pool (volumes.insert volume (seedVolume w.host pool volume image)) ∧
      o = if landed w.host image = image then .done (volumePath pool volume)
        else .failed (.uploadMismatch volume image.length (landed w.host image).length) := by
  obtain ⟨created, uploads, downloads⟩ := fillable
  have free : (VolumeDescriptor.raw volume image.length.toUInt64).name ∉ volumes := absent
  obtain ⟨w₁, made, host₁, _⟩ := send_answered quiet (Host.answer_createVolume there free) created
  rw [VolumeDescriptor.raw_name] at made host₁
  have quiet₁ := send_undisturbed quiet made
  have heard : w₁.Hears .uploadVolume 1 :=
    (send_hears_other quiet made (by nofun) Nat.one_pos).mpr uploads
  have room : image.length ≤ image.length.toUInt64.toNat :=
    Nat.le_of_eq (UInt64.toNat_ofNat_of_lt' fits).symm
  obtain ⟨w₂, uploaded, host₂, _⟩ := send_answered quiet₁
    (Host.answer_uploadVolume (by rw [host₁, Host.setPool_pools_self])
      Std.ExtTreeMap.getElem?_insert_self room) heard
  rw [host₁, Host.setPool_setPool, Table.insert_insert_self] at host₂
  have quiet₂ := send_undisturbed quiet₁ uploaded
  have heard' : w₂.Hears .downloadVolume 1 :=
    (send_hears_other quiet₁ uploaded (by nofun) Nat.one_pos).mpr
      ((send_hears_other quiet made (by nofun) Nat.one_pos).mpr downloads)
  obtain ⟨w₃, read, host₃, _⟩ := send_answered quiet₂
    (Host.answer_downloadVolume (by rw [host₂, Host.setPool_pools_self])
      Std.ExtTreeMap.getElem?_insert_self) heard'
  rw [host₂] at host₃
  rw [fillSeedVolume, bind_of_done (ask_of_done made), bind_of_done (ask_of_done uploaded),
    bind_of_done (ask_of_done read)] at run
  change (if landed w.host image ≠ image then
    fail (.uploadMismatch volume image.length (landed w.host image).length)
    else pure (volumePath pool volume) : Action Error String) w₃ = (o, w') at run
  by_cases same : landed w.host image = image
  · rw [if_neg (not_not_intro same)] at run
    obtain ⟨rfl, rfl⟩ := Prod.mk.inj run
    exact ⟨host₃, by rw [if_pos same]⟩
  · rw [if_pos same] at run
    obtain ⟨rfl, rfl⟩ := Prod.mk.inj run
    exact ⟨host₃, by rw [if_neg same]⟩

theorem fillSeedVolume_done {image : Bytes} {path : String} (quiet : w.Undisturbed)
    (run : fillSeedVolume pool volume image w = (.done path, w')) : Fillable w := by
  obtain ⟨_, w₁, asked, run⟩ := bind_done run
  obtain ⟨_, w₂, asked', run⟩ := bind_done run
  obtain ⟨_, w₃, asked'', _⟩ := bind_done run
  have made := ask_done asked
  have quiet₁ := send_undisturbed quiet made
  have uploaded := ask_done asked'
  have quiet₂ := send_undisturbed quiet₁ uploaded
  have read := ask_done asked''
  refine ⟨send_done_heard quiet made, ?_, ?_⟩
  · exact (send_hears_other quiet made (by nofun) Nat.one_pos).mp (send_done_heard quiet₁ uploaded)
  · exact (send_hears_other quiet made (by nofun) Nat.one_pos).mp
      ((send_hears_other quiet₁ uploaded (by nofun) Nat.one_pos).mp (send_done_heard quiet₂ read))

theorem createVolume_taken {volumes : Table Volume} {d : VolumeDescriptor} {context : String}
    {o : Outcome Error String} (quiet : w.Undisturbed) (there : w.host.pools[pool]? = some volumes)
    (taken : d.name ∈ volumes) (run : ask context (.createVolume pool d) w = (o, w')) :
    (∃ e, o = .failed e) ∧ Untouched pool d.name w w' := by
  obtain ⟨o₁, w₁, made⟩ : ∃ o₁ w₁, send (.createVolume pool d) w = (o₁, w₁) := ⟨_, _, rfl⟩
  have failed : ∃ e reached, o₁ = .failed e ∧ w₁.host = w.host ∧
      w₁.log = .request (.createVolume pool d) reached o₁ :: w.log := by
    by_cases heard : w.Hears .createVolume 1
    · obtain ⟨answer, log⟩ := send_heard quiet made heard
      rw [Host.answer_createVolume_taken there taken] at answer
      obtain ⟨rfl, same⟩ := Prod.mk.inj answer
      exact ⟨_, true, rfl, same.symm, log⟩
    · exact send_unheard quiet made heard
  obtain ⟨e, reached, rfl, same, log⟩ := failed
  obtain ⟨rfl, rfl⟩ := Prod.mk.inj ((ask_of_failed made).symm.trans run)
  refine ⟨⟨_, rfl⟩, by rw [same], .one log ?_⟩
  exact fun deletes => nomatch deletes.1

theorem fillSeedVolume_taken {volumes : Table Volume} {image : Bytes} {o : Outcome Error String}
    (quiet : w.Undisturbed) (there : w.host.pools[pool]? = some volumes) (taken : volume ∈ volumes)
    (run : fillSeedVolume pool volume image w = (o, w')) :
    (∃ e, o = .failed e) ∧ Untouched pool volume w w' := by
  rcases bind_cases run with ⟨_, _, made, _⟩ | ⟨e, made, rfl⟩ | ⟨made, _⟩
  · obtain ⟨⟨_, failed⟩, _⟩ := createVolume_taken quiet there taken made
    cases failed
  · exact ⟨⟨e, rfl⟩, (createVolume_taken quiet there taken made).2⟩
  · obtain ⟨⟨_, failed⟩, _⟩ := createVolume_taken quiet there taken made
    cases failed

/-- What is in the way of a seed volume can be removed, and a new one can be made. -/
def Remakable (pool volume : String) (w : World) : Prop :=
  (w.host.volume? pool volume ≠ none → Clearable w) ∧ Fillable w

theorem createSeedVolume_remade {volumes : Table Volume} {image : Bytes} {o : Outcome Error String}
    (quiet : w.Undisturbed) (there : w.host.pools[pool]? = some volumes)
    (fits : image.length < UInt64.size) (remakable : Remakable pool volume w)
    (run : createSeedVolume pool volume image w = (o, w')) :
    w'.host = w.host.setPool pool (volumes.insert volume (seedVolume w.host pool volume image)) ∧
      o = if landed w.host image = image then .done (volumePath pool volume)
        else .failed (.uploadMismatch volume image.length (landed w.host image).length) := by
  rw [createSeedVolume_eq] at run
  obtain ⟨clear, created, uploads, downloads⟩ := remakable
  obtain ⟨o₁, w₁, removed⟩ : ∃ o₁ w₁, deleteIfThere pool volume w = (o₁, w₁) := ⟨_, _, rfl⟩
  obtain ⟨rfl, host₁, hears⟩ := deleteIfThere_free quiet there
    (fun member => clear ((Host.volume?_ne_none there).mpr member)) removed
  have quiet₁ := deleteIfThere_undisturbed quiet removed
  have there₁ : w₁.host.pools[pool]? = some (volumes.erase volume) := by simp [host₁]
  have fillable₁ : Fillable w₁ := ⟨(hears _ 1 Nat.one_pos).mpr created,
    (hears _ 1 Nat.one_pos).mpr uploads, (hears _ 1 Nat.one_pos).mpr downloads⟩
  rw [bind_of_done removed] at run
  obtain ⟨host, ended⟩ := fillSeedVolume_heard quiet₁ there₁ (by simp) fits fillable₁ run
  have same : landed w₁.host image = landed w.host image := by rw [host₁]; rfl
  refine ⟨?_, by rw [ended, same]⟩
  rw [host, seedVolume, same, host₁, Host.setPool_setPool, Table.insert_erase_self]
  rfl

theorem createSeedVolume_done_iff {volumes : Table Volume} {image : Bytes} {o : Outcome Error String}
    (quiet : w.Undisturbed) (there : w.host.pools[pool]? = some volumes)
    (fits : image.length < UInt64.size) (run : createSeedVolume pool volume image w = (o, w')) :
    (∃ path, o = .done path) ↔ Remakable pool volume w ∧ landed w.host image = image := by
  constructor
  · rintro ⟨path, rfl⟩
    have remakable : Remakable pool volume w := by
      rw [createSeedVolume_eq] at run
      obtain ⟨_, w₁, removed, filled⟩ := bind_done run
      have quiet₁ := deleteIfThere_undisturbed quiet removed
      have clear : volume ∈ volumes → Clearable w := by
        intro member
        apply Classical.byContradiction
        intro blocked
        obtain ⟨old, found⟩ := Table.found_of_mem member
        obtain ⟨_, same, _⟩ := deleteIfThere_kept quiet there found blocked removed
        rw [← same] at there
        obtain ⟨⟨_, failed⟩, _⟩ := fillSeedVolume_taken quiet₁ there member filled
        cases failed
      obtain ⟨_, _, hears⟩ := deleteIfThere_free quiet there clear removed
      obtain ⟨created, uploads, downloads⟩ := fillSeedVolume_done quiet₁ filled
      exact ⟨fun present => clear ((Host.volume?_ne_none there).mp present),
        (hears _ 1 Nat.one_pos).mp created, (hears _ 1 Nat.one_pos).mp uploads,
        (hears _ 1 Nat.one_pos).mp downloads⟩
    refine ⟨remakable, ?_⟩
    have ended := (createSeedVolume_remade quiet there fits remakable run).2
    split at ended
    · assumption
    · cases ended
  · rintro ⟨remakable, same⟩
    have ended := (createSeedVolume_remade quiet there fits remakable run).2
    exact ⟨_, ended.trans (if_pos same)⟩

/-- A finished seed volume took one look-up, and a deletion where there was a volume before. -/
theorem createSeedVolume_hears {volumes : Table Volume} {image : Bytes} {o : Outcome Error String}
    {call : Call} {n : Nat} (quiet : w.Undisturbed) (there : w.host.pools[pool]? = some volumes)
    (clear : volume ∈ volumes → Clearable w)
    (others : call ≠ .createVolume ∧ call ≠ .uploadVolume ∧ call ≠ .downloadVolume) (later : 0 < n)
    (run : createSeedVolume pool volume image w = (o, w')) :
    w'.Hears call n ↔ w.Hears call (n + (if call = .deleteVolume ∧ volume ∈ volumes then 1 else 0) +
      if call = .volumePath then 1 else 0) := by
  rw [createSeedVolume_eq] at run
  obtain ⟨o₁, w₁, removed⟩ : ∃ o₁ w₁, deleteIfThere pool volume w = (o₁, w₁) := ⟨_, _, rfl⟩
  obtain ⟨rfl, _, hears⟩ := deleteIfThere_free quiet there clear removed
  rw [bind_of_done removed] at run
  have path := (fillSeedVolume_reaches pool volume image).of_run run
  rw [← hears call n later]
  apply path.hears (deleteIfThere_undisturbed quiet removed) _ later
  intro r fills
  cases r <;> first | exact fills.elim | exact others.1 | exact others.2.1 | exact others.2.2

/-- What is asked about one volume to make it anew. -/
def Makes (pool volume : String) (r : Request) : Prop :=
  Removes pool [volume] r ∨ Fills pool volume r

theorem makes_other {pool' volume' : String} {r : Request} (makes : Makes pool volume r)
    (other : volume' ≠ volume) : r.volume? ≠ some (pool', volume') := by
  intro same
  cases r <;> simp_all [Makes, Removes, Fills, Request.volume?]

theorem createSeedVolume_makes (pool volume : String) (image : Bytes) :
    (createSeedVolume pool volume image).Keeps (Reaches (Makes pool volume)) := by
  rw [createSeedVolume_eq]
  apply reaches_frame.bind
    ((deleteIfThere_reaches (List.mem_singleton_self volume)).mono fun path => path.mono fun _ => .inl)
  intro _
  exact (fillSeedVolume_reaches pool volume image).mono fun path => path.mono fun _ => .inr

/-- A volume that was there is deleted, or it is in the way and stays. -/
theorem createSeedVolume_present {volumes : Table Volume} {old : Volume} {image : Bytes}
    {o : Outcome Error String} (quiet : w.Undisturbed) (there : w.host.pools[pool]? = some volumes)
    (found : volumes[volume]? = some old) (run : createSeedVolume pool volume image w = (o, w')) :
    (Clearable w → Deleted pool volume w w') ∧
      (¬ Clearable w → (∃ e, o = .failed e) ∧ Untouched pool volume w w') := by
  rw [createSeedVolume_eq] at run
  obtain ⟨o₁, w₁, removed⟩ : ∃ o₁ w₁, deleteIfThere pool volume w = (o₁, w₁) := ⟨_, _, rfl⟩
  constructor
  · intro clearable
    obtain ⟨rfl, _, deleted, _⟩ := deleteIfThere_cleared quiet there found clearable removed
    rw [bind_of_done removed] at run
    exact deleted.before ((fillSeedVolume_reaches pool volume image).of_run run).logs
  · intro blocked
    obtain ⟨rfl, same, untouched⟩ := deleteIfThere_kept quiet there found blocked removed
    rw [bind_of_done removed] at run
    have member : volume ∈ volumes := Table.mem_of_found found
    rw [← same] at there
    obtain ⟨failed, untouched'⟩ :=
      fillSeedVolume_taken (deleteIfThere_undisturbed quiet removed) there member run
    exact ⟨failed, untouched_frame.trans untouched untouched'⟩

theorem createDiskVolume_makes (spec : Spec) :
    (createDiskVolume spec).Keeps (Reaches (Makes spec.storagePool spec.names.diskVolume)) := by
  apply reaches_frame.bind ((deleteIfThere_reaches (List.mem_singleton_self spec.names.diskVolume)).mono
    fun path => path.mono fun _ => .inl)
  intro _
  exact reaches_ask _ (by exact .inr ⟨rfl, rfl⟩)

theorem createDiskVolume_present {spec : Spec} {volumes : Table Volume} {old : Volume}
    {o : Outcome Error String} (quiet : w.Undisturbed)
    (there : w.host.pools[spec.storagePool]? = some volumes)
    (found : volumes[spec.names.diskVolume]? = some old) (run : createDiskVolume spec w = (o, w')) :
    (Clearable w → Deleted spec.storagePool spec.names.diskVolume w w') ∧
      (¬ Clearable w →
        (∃ e, o = .failed e) ∧ Untouched spec.storagePool spec.names.diskVolume w w') := by
  obtain ⟨o₁, w₁, removed⟩ :
    ∃ o₁ w₁, deleteIfThere spec.storagePool spec.names.diskVolume w = (o₁, w₁) := ⟨_, _, rfl⟩
  constructor
  · intro clearable
    obtain ⟨rfl, _, deleted, _⟩ := deleteIfThere_cleared quiet there found clearable removed
    rw [createDiskVolume, bind_of_done removed] at run
    have path : Reaches (fun _ => True) w₁ w' := (reaches_ask _ trivial).of_run run
    exact deleted.before path.logs
  · intro blocked
    obtain ⟨rfl, same, untouched⟩ := deleteIfThere_kept quiet there found blocked removed
    rw [createDiskVolume, bind_of_done removed] at run
    have member : spec.names.diskVolume ∈ volumes := Table.mem_of_found found
    rw [← same] at there
    obtain ⟨failed, untouched'⟩ :=
      createVolume_taken (deleteIfThere_undisturbed quiet removed) there member run
    exact ⟨failed, untouched_frame.trans untouched untouched'⟩

end Lifecycle

end MachineKeeper
