import BebaSacco.Lib.Process
import BebaSacco.Lib.Table
import BebaSacco.Users

/-! # Backup codes

`verifyBackupCode` reads the hashes that a user has left, tries them one after the other and writes
the list back without the one that matched. The calls of all users interleave at their statements.

Results:
 1. `Issued.consume`: without the hash that matched, a list matches the code no more.
 2. `sound_step`: one event keeps the codes single-use if each list is written over the one it was
    made from.
 3. `backup_codes_single_use`: so a code is accepted once, in every such run.
 4. `backup_code_reused`: two calls that read before either has written.
-/

namespace BebaSacco

open Txn Process

/-- The column of a user that holds the codes, hashed. -/
structure BackupUser (H : Type) where
  backupCodes : List H
  deriving DecidableEq, Repr

/-- The users by their ids, and the codes that calls returned true for, with their users. -/
structure BackupDesk (H : Type) where
  users : List (BackupUser H)
  accepted : List (Nat × String)
  deriving DecidableEq, Repr

/-- The arguments of a call. -/
structure VerifyBackupCode where
  userId : Nat
  code : String
  deriving DecidableEq, Repr

inductive BackupTask (H : Type) where
  | findUser (call : VerifyBackupCode)
  | verify (call : VerifyBackupCode) (backupCodes : List H) (i : Nat)
  | update (call : VerifyBackupCode) (backupCodes : List H) (i : Nat)
  | audit (call : VerifyBackupCode)
  deriving DecidableEq, Repr

abbrev BackupWorld (H : Type) := World (BackupDesk H) (BackupTask H)

abbrev BackupEvent := Event VerifyBackupCode Unit

section

variable {H : Type} (verify : H → String → Bool)

/-- `verifyBackupCode`, where `verify` is `argon2.verify`. -/
def BackupTask.next : BackupTask H → Unit → Txn (BackupDesk H) AuthErr (Option (BackupTask H))
  | .findUser call, _ => do
    let desk ← get
    let user ← required desk.users[call.userId]? (.badRequest "Invalid backup code")
    ensure (user.backupCodes.length ≠ 0) (.badRequest "Invalid backup code")
    return some (.verify call user.backupCodes 0)
  | .verify call backupCodes i, _ => do
    let hash ← required backupCodes[i]? (.badRequest "Invalid backup code")
    if verify hash call.code then
      return some (.update call backupCodes i)
    else
      return some (.verify call backupCodes (i + 1))
  | .update call backupCodes i, _ => do
    let desk ← get
    ensure (call.userId < desk.users.length) (.notFound "Record to update not found.")
    modify fun desk =>
      { desk with
        users := desk.users.modify call.userId fun user =>
          { user with backupCodes := backupCodes.eraseIdx i } }
    return some (.audit call)
  | .audit call, _ => do
    -- the call returns true once the audit event is written
    modify fun desk => { desk with accepted := (call.userId, call.code) :: desk.accepted }
    return none

def backupProgram : Program (BackupDesk H) AuthErr VerifyBackupCode Unit (BackupTask H) :=
  ⟨.findUser, BackupTask.next verify⟩

/-- The users after they have enrolled: each code that was issued, with its hash. -/
def BackupWorld.opening (enrolments : List (List (String × H))) : BackupWorld H :=
  ⟨⟨enrolments.map fun codes => ⟨codes.map Prod.snd⟩, []⟩, []⟩

def BackupWorld.after (w : BackupWorld H) (events : List BackupEvent) : BackupWorld H :=
  Machine.run (backupProgram verify).step w events

/-! ## The property and the condition -/

/-- Distinct codes with their hashes; a hash matches the code it was made of and no other. -/
structure Issued (codes : List (String × H)) : Prop where
  distinct : (codes.map Prod.fst).Nodup
  hashed : ∀ p ∈ codes, ∀ code, verify p.2 code = true ↔ code = p.1

/-- No hash that the user has left matches the code. -/
def BackupDesk.Gone (d : BackupDesk H) (userId : Nat) (code : String) : Prop :=
  ∀ user, d.users[userId]? = some user → ∀ hash ∈ user.backupCodes, verify hash code = false

structure BackupDesk.SingleUse (d : BackupDesk H) : Prop where
  once : d.accepted.Nodup
  gone : ∀ p ∈ d.accepted, d.Gone verify p.1 p.2

/-- The condition on an event: a call writes over the list that it has read. -/
def BackupWorld.overRead [DecidableEq H] (w : BackupWorld H) : BackupEvent → Bool
  | .advance i _ =>
    match w.task i with
    | some (.update call backupCodes _) =>
      w.state.users[call.userId]?.all fun user => user.backupCodes == backupCodes
    | _ => true
  | _ => true

/-! ## 1. The list of a user -/

section

variable {verify} {codes : List (String × H)} {i : Nat} {code : String} {hash : H}

theorem Issued.matches (h : Issued verify codes) {p : String × H} (hp : p ∈ codes)
    (hv : verify p.2 code = true) : p.1 = code :=
  ((h.hashed p hp code).mp hv).symm

theorem Issued.sublist {left : List (String × H)} (h : Issued verify codes)
    (hl : left.Sublist codes) : Issued verify left where
  distinct := h.distinct.sublist (hl.map Prod.fst)
  hashed p hp := h.hashed p (hl.subset hp)

/-- A code is in one place of the list. -/
theorem Issued.place {j : Nat} {p q : String × H} (h : Issued verify codes)
    (hi : codes[i]? = some p) (hj : codes[j]? = some q) (he : p.1 = q.1) : i = j := by
  have hi' : (codes.map Prod.fst)[i]? = some p.1 := by rw [List.getElem?_map, hi, Option.map_some]
  have hj' : (codes.map Prod.fst)[j]? = some p.1 := by
    rw [List.getElem?_map, hj, Option.map_some, he]
  exact (List.getElem?_inj (Table.lt_length_of_getElem? hi') h.distinct).mp (hi'.trans hj'.symm)

theorem map_snd_eraseIdx : (codes.map Prod.snd).eraseIdx i = (codes.eraseIdx i).map Prod.snd := by
  induction codes generalizing i with
  | nil => rfl
  | cons p codes ih =>
    cases i with
    | zero => rfl
    | succ i =>
      rw [List.map_cons, List.eraseIdx_cons_succ, ih, List.eraseIdx_cons_succ, List.map_cons]

/-- The list without the hash that matched the code. -/
theorem Issued.consume (h : Issued verify codes) (hi : (codes.map Prod.snd)[i]? = some hash)
    (hv : verify hash code = true) : ∀ p ∈ codes.eraseIdx i, verify p.2 code = false := by
  rw [List.getElem?_map, Option.map_eq_some_iff] at hi
  obtain ⟨q, hq, rfl⟩ := hi
  intro p hp
  by_contra hmatch
  rw [Bool.not_eq_false] at hmatch
  obtain ⟨j, hne, hj⟩ := List.mem_eraseIdx_iff_getElem?.mp hp
  have hsame : p.1 = q.1 := (h.matches (List.mem_of_getElem? hj) hmatch).trans
    (h.matches (List.mem_of_getElem? hq) hv).symm
  exact hne (h.place hj hq hsame)

end

namespace BackupLemmas

variable {verify} {w : BackupWorld H} {d d' : BackupDesk H} {call : VerifyBackupCode}
  {backupCodes : List H} {userId i : Nat} {code : String} {e : BackupEvent}

/-! ## 2. One event -/

/-- The hashes that a user has left are those of codes that were issued. -/
def Enrolled (verify : H → String → Bool) (d : BackupDesk H) : Prop :=
  ∀ (userId : Nat) (user : BackupUser H), d.users[userId]? = some user →
    ∃ left, Issued verify left ∧ user.backupCodes = left.map Prod.snd

/-- What a call knows at a point: the hash it is about to remove matches, and the code whose removal
it is about to report is gone and was not reported. -/
def Knows (verify : H → String → Bool) (d : BackupDesk H) : BackupTask H → Prop
  | .update call backupCodes i => ∃ hash, backupCodes[i]? = some hash ∧ verify hash call.code = true
  | .audit call => d.Gone verify call.userId call.code ∧ (call.userId, call.code) ∉ d.accepted
  | _ => True

/-- The call whose acceptance is about to be reported. -/
def BackupTask.reporting : BackupTask H → Option VerifyBackupCode
  | .audit call => some call
  | _ => none

structure Sound (verify : H → String → Bool) (w : BackupWorld H) : Prop where
  upheld : Upheld (fun d => Enrolled verify d ∧ d.SingleUse verify) (Knows verify) w
  alone : Alone BackupTask.reporting w

theorem next_cases {t : BackupTask H} {t' : Option (BackupTask H)}
    (h : Yields (t.next verify ()) d t' d') :
    (d' = d ∧ ∀ u, t' = some u → (∀ call, u ≠ .audit call) ∧ ∀ d'', Knows verify d'' u) ∨
    (∃ call backupCodes i user, t = .update call backupCodes i ∧
      d.users[call.userId]? = some user ∧ t' = some (.audit call) ∧
      d' = { d with
        users := d.users.modify call.userId fun user =>
          { user with backupCodes := backupCodes.eraseIdx i } }) ∨
    ∃ call, t = .audit call ∧ t' = none ∧
      d' = { d with accepted := (call.userId, call.code) :: d.accepted } := by
  cases t with
  | findUser call =>
    simp only [BackupTask.next, yields_bind, yields_get, yields_required, yields_ensure,
      yields_pure] at h
    obtain ⟨_, _, ⟨rfl, rfl⟩, _, _, ⟨-, rfl⟩, _, _, ⟨-, rfl⟩, rfl, rfl⟩ := h
    exact .inl ⟨rfl, fun u hu => by cases hu; exact ⟨by simp, fun _ => trivial⟩⟩
  | verify call backupCodes i =>
    simp only [BackupTask.next, yields_bind, yields_required] at h
    obtain ⟨hash, _, ⟨hhash, rfl⟩, h⟩ := h
    split at h
    · next hv =>
      rw [yields_pure] at h
      obtain ⟨rfl, rfl⟩ := h
      exact .inl ⟨rfl, fun u hu => by cases hu; exact ⟨by simp, fun _ => ⟨hash, hhash, hv⟩⟩⟩
    · rw [yields_pure] at h
      obtain ⟨rfl, rfl⟩ := h
      exact .inl ⟨rfl, fun u hu => by cases hu; exact ⟨by simp, fun _ => trivial⟩⟩
  | update call backupCodes i =>
    simp only [BackupTask.next, yields_bind, yields_get, yields_ensure, yields_modify,
      yields_pure] at h
    obtain ⟨_, _, ⟨rfl, rfl⟩, _, _, ⟨hlt, rfl⟩, _, _, rfl, rfl, rfl⟩ := h
    exact .inr (.inl ⟨call, backupCodes, i, _, rfl, List.getElem?_eq_getElem hlt, rfl, rfl⟩)
  | audit call =>
    simp only [BackupTask.next, yields_bind, yields_modify, yields_pure] at h
    obtain ⟨_, _, rfl, rfl, rfl⟩ := h
    exact .inr (.inr ⟨call, rfl, rfl, rfl⟩)

/-- What writing over the list that was read does: the code was there, and it is gone after. -/
theorem consume_spec {user : BackupUser H} {hash : H} (hd : Enrolled verify d)
    (huser : d.users[userId]? = some user) (hhash : user.backupCodes[i]? = some hash)
    (hv : verify hash code = true)
    (hd' : d' = { d with
      users := d.users.modify userId fun u =>
        { u with backupCodes := user.backupCodes.eraseIdx i } }) :
    ¬ d.Gone verify userId code ∧ Enrolled verify d' ∧ d'.Gone verify userId code ∧
      ∀ userId' code', d.Gone verify userId' code' → d'.Gone verify userId' code' := by
  obtain ⟨left, hissued, hleft⟩ := hd userId user huser
  have hwritten : d'.users[userId]? = some ⟨user.backupCodes.eraseIdx i⟩ := by
    rw [hd']
    exact Table.getElem?_modify_self huser
  have hother : ∀ j, userId ≠ j → d'.users[j]? = d.users[j]? := by
    intro j hj
    rw [hd']
    exact Table.getElem?_modify_other hj
  refine ⟨fun hgone => ?_, fun j u hu => ?_, fun u hu h hh => ?_, fun j c hgone u hu h hh => ?_⟩
  · cases (hgone user huser hash (List.mem_of_getElem? hhash)).symm.trans hv
  · by_cases hj : userId = j
    · subst hj
      cases hwritten.symm.trans hu
      refine ⟨left.eraseIdx i, hissued.sublist (List.eraseIdx_sublist left i), ?_⟩
      rw [hleft, map_snd_eraseIdx]
    · exact hd j u ((hother j hj).symm.trans hu)
  · cases hwritten.symm.trans hu
    rw [hleft, map_snd_eraseIdx] at hh
    rw [hleft] at hhash
    obtain ⟨p, hp, rfl⟩ := List.mem_map.mp hh
    exact hissued.consume hhash hv p hp
  · by_cases hj : userId = j
    · subst hj
      cases hwritten.symm.trans hu
      exact hgone user huser h ((List.eraseIdx_sublist _ i).subset hh)
    · exact hgone u ((hother j hj).symm.trans hu) h hh

/-- What is gone stays gone when a list is written over the one it was made from. -/
theorem knows_mono {t : BackupTask H} (h : Knows verify d t)
    (hgone : ∀ userId code, d.Gone verify userId code → d'.Gone verify userId code)
    (haccepted : ∀ call, t = .audit call → (call.userId, call.code) ∉ d.accepted →
      (call.userId, call.code) ∉ d'.accepted) : Knows verify d' t := by
  cases t with
  | update _ _ _ => exact h
  | audit call => exact ⟨hgone _ _ h.1, haccepted call rfl h.2⟩
  | _ => trivial

variable [DecidableEq H]

theorem overRead_update {input : Unit} {user : BackupUser H}
    (h : BackupWorld.overRead w (.advance i input) = true)
    (hat : w.At i (.update call backupCodes userId))
    (huser : w.state.users[call.userId]? = some user) : user.backupCodes = backupCodes := by
  unfold BackupWorld.overRead at h
  simp only [task_some.mpr hat, huser, Option.all_some] at h
  exact eq_of_beq h

theorem step_upheld (h : Sound verify w) (hover : w.overRead e = true) :
    Upheld (fun d => Enrolled verify d ∧ d.SingleUse verify) (Knows verify)
      ((backupProgram verify).step w e) := by
  refine upheld_step h.upheld (fun _ _ => trivial) ?_
  intro i input t t' d' he hat hy
  subst he
  have hknows := h.upheld.tasks i t hat
  obtain ⟨henrolled, hsingle⟩ := h.upheld.state
  rcases next_cases hy with ⟨rfl, hown⟩ | ⟨call, backupCodes, k, user, rfl, huser, rfl, rfl⟩ |
    ⟨call, rfl, rfl, rfl⟩
  · exact ⟨h.upheld.state, fun u hu => (hown u hu).2 _, fun j u _ _ hu => hu⟩
  · obtain ⟨hash, hhash, hv⟩ := hknows
    obtain rfl := overRead_update hover hat huser
    obtain ⟨hthere, henrolled', hgone', hkept⟩ := consume_spec henrolled huser hhash hv rfl
    refine ⟨⟨henrolled', hsingle.once, fun p hp => hkept _ _ (hsingle.gone p hp)⟩, ?_, ?_⟩
    · intro u hu
      cases hu
      exact ⟨hgone', fun hmem => hthere (hsingle.gone _ hmem)⟩
    · intro j u _ _ hu
      exact knows_mono hu hkept fun _ _ hnot => hnot
  · refine ⟨⟨henrolled, List.nodup_cons.mpr ⟨hknows.2, hsingle.once⟩, ?_⟩, ?_, ?_⟩
    · intro p hp
      rcases List.mem_cons.mp hp with rfl | hp
      · exact hknows.1
      · exact hsingle.gone p hp
    · intro u hu
      cases hu
    · intro j u hne huat hu
      refine knows_mono hu (fun _ _ hg => hg) fun call' hcall hnot hmem => ?_
      subst hcall
      rcases List.mem_cons.mp hmem with heq | hmem
      · have hsame : call' = call := by
          cases call'
          cases call
          cases heq
          rfl
        subst hsame
        exact hne (h.alone j i _ _ _ huat hat rfl rfl)
      · exact hnot hmem

theorem step_alone (h : Sound verify w) (hover : w.overRead e = true) :
    Alone BackupTask.reporting ((backupProgram verify).step w e) := by
  refine alone_step h.alone (fun _ => rfl) fun i input t u s' call he hat hy hu => ?_
  subst he
  rcases next_cases hy with ⟨-, hown⟩ | ⟨call', _, k, user, rfl, huser, hcall, -⟩ | ⟨_, -, hend, -⟩
  · have hnot := (hown u rfl).1
    cases u with
    | audit call => exact absurd rfl (hnot call)
    | _ => cases hu
  · cases hcall
    cases hu
    obtain ⟨hash, hhash, hv⟩ := h.upheld.tasks i _ hat
    obtain rfl := overRead_update hover hat huser
    refine .inr fun j v hj hcritical => ?_
    cases v with
    | audit call =>
      cases hcritical
      exact (consume_spec h.upheld.state.1 huser hhash hv rfl).1 (h.upheld.tasks j _ hj).1
    | _ => cases hcritical
  · cases hend

theorem sound_step (h : Sound verify w) (hover : w.overRead e = true) :
    Sound verify ((backupProgram verify).step w e) :=
  ⟨step_upheld h hover, step_alone h hover⟩

omit [DecidableEq H] in
theorem sound_opening {enrolments : List (List (String × H))}
    (h : ∀ codes ∈ enrolments, Issued verify codes) :
    Sound verify (BackupWorld.opening enrolments) where
  upheld := by
    refine ⟨⟨fun userId user huser => ?_, List.nodup_nil, fun _ hp => by cases hp⟩, fun _ _ ht => by
      cases ht⟩
    have huser : (enrolments.map fun codes => BackupUser.mk (codes.map Prod.snd))[userId]? =
      some user := huser
    rw [List.getElem?_map, Option.map_eq_some_iff] at huser
    obtain ⟨codes, hcodes, rfl⟩ := huser
    exact ⟨codes, h codes (List.mem_of_getElem? hcodes), rfl⟩
  alone _ _ _ _ _ hi := by cases hi

end BackupLemmas

open BackupLemmas

/-! ## 3. Runs -/

/-- If every call writes over the list that it has read, then a code is accepted once at most, and
once it was accepted no hash that is left matches it. -/
theorem backup_codes_single_use [DecidableEq H] (enrolments : List (List (String × H)))
    (henrolled : ∀ codes ∈ enrolments, Issued verify codes) (events : List BackupEvent)
    (h : Machine.Guarded (backupProgram verify).step
      (fun w e => BackupWorld.overRead w e = true) (BackupWorld.opening enrolments) events) :
    ((BackupWorld.opening enrolments).after verify events).state.SingleUse verify :=
  (Machine.run_induct (fun _ _ => sound_step) (sound_opening henrolled) h).upheld.state.2

end

/-- Hashing that hides nothing. -/
def exVerify (hash code : String) : Bool := hash == code

/-- A user with two backup codes. -/
def exBackupCodes : List (String × String) := [("1f00a9c2", "1f00a9c2"), ("7be3d411", "7be3d411")]

/-- The statements of a call that finds its code in the first place. -/
def exUseFirst (i : Nat) : List BackupEvent :=
  [.advance i (), .advance i (), .advance i (), .advance i ()]

theorem backup_codes_single_use_twice :
    ((BackupWorld.opening [exBackupCodes]).after exVerify
      (.start ⟨0, "1f00a9c2"⟩ :: exUseFirst 0 ++
        .start ⟨0, "7be3d411"⟩ :: exUseFirst 1)).state.SingleUse exVerify := by
  refine backup_codes_single_use exVerify [exBackupCodes] ?_ _ (by decide +kernel)
  intro codes hcodes
  obtain rfl := List.mem_singleton.mp hcodes
  refine ⟨by decide +kernel, fun p hp code => ?_⟩
  have hsame : p.2 = p.1 := by
    rcases List.mem_cons.mp hp with rfl | hp
    · rfl
    · obtain rfl := List.mem_singleton.mp hp
      rfl
  unfold exVerify
  rw [hsame, beq_iff_eq]
  exact eq_comm

/-- Two calls with one code both read before either writes: both are accepted. Two calls with two
codes write over each other: the first one is left after it was accepted, and accepted again. -/
theorem backup_code_reused :
    let world (events : List BackupEvent) :=
      (BackupWorld.opening [exBackupCodes]).after exVerify events
    let same : List BackupEvent :=
      [.start ⟨0, "1f00a9c2"⟩, .start ⟨0, "1f00a9c2"⟩, .advance 0 (), .advance 1 (), .advance 0 (),
        .advance 1 (), .advance 0 (), .advance 1 (), .advance 0 (), .advance 1 ()]
    let crossed : List BackupEvent :=
      [.start ⟨0, "1f00a9c2"⟩, .start ⟨0, "7be3d411"⟩, .advance 0 (), .advance 1 (), .advance 0 (),
        .advance 1 (), .advance 1 (), .advance 0 (), .advance 0 (), .advance 1 (), .advance 1 ()]
    (world same).state.accepted = [(0, "1f00a9c2"), (0, "1f00a9c2")] ∧
      (world crossed).state = ⟨[⟨["1f00a9c2"]⟩], [(0, "7be3d411"), (0, "1f00a9c2")]⟩ ∧
      (world (crossed ++ .start ⟨0, "1f00a9c2"⟩ :: exUseFirst 2)).state.accepted =
        [(0, "1f00a9c2"), (0, "7be3d411"), (0, "1f00a9c2")] := by
  decide +kernel

end BebaSacco
