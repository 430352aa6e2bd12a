import WarpStream.Transition

set_option autoImplicit false

namespace WarpStream

open Transition

section

variable {Content : Type}

-- pairError is the error of X509KeyPair, none for a certificate and a key that
-- belong together.
structure X509Library (Content : Type) where
  pairError : Content → Content → Option String
  openError : String → String

structure DiskFile (Content : Type) where
  content : Content
  modTime : Nat
  present : Bool

structure Disk (Content : Type) where
  cert : DiskFile Content
  key : DiskFile Content

inductive PairFile where
  | cert
  | key
deriving DecidableEq, Repr

def Disk.get (disk : Disk Content) : PairFile → DiskFile Content
  | .cert => disk.cert
  | .key => disk.key

def Disk.put (disk : Disk Content) (name : PairFile) (file : DiskFile Content) : Disk Content :=
  match name with
  | .cert => { disk with cert := file }
  | .key => { disk with key := file }

def Disk.pair (disk : Disk Content) : Option (Content × Content) :=
  if disk.cert.present = true ∧ disk.key.present = true then some (disk.cert.content, disk.key.content) else none

-- CertReloader and clientCertReloader differ in the texts of their errors only.
inductive ReloaderKind where
  | server
  | client
deriving DecidableEq, Repr

structure CertReloader (Content : Type) where
  kind : ReloaderKind
  certFile : String
  keyFile : String
  cert : Option (Content × Content)

def CertReloader.reloadError (reloader : CertReloader Content) (cause : String) : String :=
  match reloader.kind with
  | .server => "failed to reload certificate " ++ reloader.certFile ++ " / key " ++ reloader.keyFile ++ ": " ++ cause
  | .client => "client cert reload: " ++ cause

def loadX509KeyPair (library : X509Library Content) (disk : Disk Content) (certFile keyFile : String) :
    Except String (Content × Content) :=
  if disk.cert.present = false then .error (library.openError certFile)
  else if disk.key.present = false then .error (library.openError keyFile)
  else
    match library.pairError disk.cert.content disk.key.content with
    | some error => .error error
    | none => .ok (disk.cert.content, disk.key.content)

def reload (library : X509Library Content) (disk : Disk Content) (reloader : CertReloader Content) :
    Except String (CertReloader Content) :=
  match loadX509KeyPair library disk reloader.certFile reloader.keyFile with
  | .error cause => .error (reloader.reloadError cause)
  | .ok cert => .ok { reloader with cert := some cert }

def newCertReloader (library : X509Library Content) (disk : Disk Content) (kind : ReloaderKind) (certFile keyFile : String) :
    Except String (CertReloader Content) :=
  reload library disk ⟨kind, certFile, keyFile, none⟩

def getCertificate (reloader : CertReloader Content) : Except String (Content × Content) :=
  match reloader.cert, reloader.kind with
  | some cert, _ => .ok cert
  | none, .server => .error "no TLS certificate loaded"
  | none, .client => .error "no client TLS certificate loaded"

-- Modification times are counted from the zero time. latest bounds those of all
-- files so far.
structure Watcher (Content : Type) where
  disk : Disk Content
  reloader : CertReloader Content
  lastCertMod : Nat
  lastKeyMod : Nat
  latest : Nat

def watchFiles (disk : Disk Content) (reloader : CertReloader Content) : Watcher Content :=
  ⟨disk, reloader, 0, 0, max disk.cert.modTime disk.key.modTime⟩

def pollTick (library : X509Library Content) (watcher : Watcher Content) : Watcher Content :=
  let certMod := watcher.disk.cert.modTime
  let keyMod := watcher.disk.key.modTime
  if watcher.disk.cert.present = false ∨ watcher.disk.key.present = false then watcher
  else if watcher.lastCertMod = 0 then { watcher with lastCertMod := certMod, lastKeyMod := keyMod }
  else if watcher.lastCertMod < certMod ∨ watcher.lastKeyMod < keyMod then
    match reload library watcher.disk watcher.reloader with
    | .error _ => watcher
    | .ok reloader => { watcher with reloader := reloader, lastCertMod := certMod, lastKeyMod := keyMod }
  else watcher

def signalReload (library : X509Library Content) (watcher : Watcher Content) : Watcher Content :=
  match reload library watcher.disk watcher.reloader with
  | .error _ => watcher
  | .ok reloader => { watcher with reloader := reloader }

-- A replacement is newer than every file before it. A file that disappears may
-- come back as it was.
inductive WatchEvent (Content : Type) where
  | replace (name : PairFile) (content : Content) (modTime : Nat)
  | expose (name : PairFile) (present : Bool)
  | tick
  | hangup

def watchStep (library : X509Library Content) : Step (Watcher Content) (WatchEvent Content) := fun watcher event =>
  match event with
  | .replace name content modTime =>
      if watcher.latest < modTime then
        some { watcher with disk := watcher.disk.put name ⟨content, modTime, true⟩, latest := modTime }
      else none
  | .expose name present => some { watcher with disk := watcher.disk.put name { watcher.disk.get name with present := present } }
  | .tick => some (pollTick library watcher)
  | .hangup => some (signalReload library watcher)

theorem reload_ok_iff (library : X509Library Content) (disk : Disk Content) (reloader next : CertReloader Content) :
    reload library disk reloader = .ok next ↔
      ∃ pair, disk.pair = some pair ∧ library.pairError pair.1 pair.2 = none ∧ next = { reloader with cert := some pair } := by
  rw [reload, loadX509KeyPair, Disk.pair]
  cases cert : disk.cert.present with
  | false => simp
  | true =>
      cases key : disk.key.present with
      | false => simp
      | true =>
          cases refused : library.pairError disk.cert.content disk.key.content with
          | some error => simp [refused]
          | none => simp [refused, eq_comm]

-- What a poll does to the served pair: nothing, or it takes the pair on disk,
-- and then the remembered times are those of the files.
inductive Polled (library : X509Library Content) (watcher : Watcher Content) : Watcher Content → Prop where
  | absent (missing : watcher.disk.pair = none) : Polled library watcher watcher
  | baseline (first : watcher.lastCertMod = 0) : Polled library watcher
      { watcher with lastCertMod := watcher.disk.cert.modTime, lastKeyMod := watcher.disk.key.modTime }
  | unchanged (seen : watcher.disk.cert.modTime ≤ watcher.lastCertMod ∧ watcher.disk.key.modTime ≤ watcher.lastKeyMod) :
      Polled library watcher watcher
  | refused (unusable : ∀ pair, watcher.disk.pair = some pair → library.pairError pair.1 pair.2 ≠ none) :
      Polled library watcher watcher
  | reloaded (pair : Content × Content) (found : watcher.disk.pair = some pair)
      (usable : library.pairError pair.1 pair.2 = none) : Polled library watcher
      { watcher with
        reloader := { watcher.reloader with cert := some pair }
        lastCertMod := watcher.disk.cert.modTime
        lastKeyMod := watcher.disk.key.modTime }

theorem poll_tick_polled (library : X509Library Content) (watcher : Watcher Content) :
    Polled library watcher (pollTick library watcher) := by
  rw [pollTick]
  by_cases missing : watcher.disk.cert.present = false ∨ watcher.disk.key.present = false
  · rw [if_pos missing]
    refine .absent (if_neg ?_)
    rintro ⟨cert, key⟩
    rcases missing with gone | gone
    · cases cert.symm.trans gone
    · cases key.symm.trans gone
  · rw [if_neg missing]
    by_cases first : watcher.lastCertMod = 0
    · rw [if_pos first]
      exact .baseline first
    · rw [if_neg first]
      by_cases changed : watcher.lastCertMod < watcher.disk.cert.modTime ∨ watcher.lastKeyMod < watcher.disk.key.modTime
      · rw [if_pos changed]
        cases result : reload library watcher.disk watcher.reloader with
        | error cause =>
            refine .refused ?_
            intro pair found usable
            cases result.symm.trans ((reload_ok_iff library _ _ _).mpr ⟨pair, found, usable, rfl⟩)
        | ok next =>
            obtain ⟨pair, found, usable, rfl⟩ := (reload_ok_iff library _ _ _).mp result
            exact .reloaded pair found usable
      · rw [if_neg changed]
        exact .unchanged (by omega)

theorem signal_reload_cases (library : X509Library Content) (watcher : Watcher Content) :
    signalReload library watcher = watcher ∨
      ∃ pair, watcher.disk.pair = some pair ∧ library.pairError pair.1 pair.2 = none ∧
        signalReload library watcher = { watcher with reloader := { watcher.reloader with cert := some pair } } := by
  rw [signalReload]
  cases result : reload library watcher.disk watcher.reloader with
  | error cause => exact .inl rfl
  | ok next =>
      obtain ⟨pair, found, usable, rfl⟩ := (reload_ok_iff library _ _ _).mp result
      exact .inr ⟨pair, found, usable, rfl⟩

def Forms (library : X509Library Content) (watcher : Watcher Content) (cert : Option (Content × Content)) : Prop :=
  ∃ pair, cert = some pair ∧ watcher.disk.pair = some pair ∧ library.pairError pair.1 pair.2 = none

theorem polled_serves (library : X509Library Content) (watcher next : Watcher Content) (polled : Polled library watcher next) :
    next.reloader.cert = watcher.reloader.cert ∨ Forms library watcher next.reloader.cert := by
  cases polled with
  | reloaded pair found usable => exact .inr ⟨pair, rfl, found, usable⟩
  | _ => exact .inl rfl

theorem step_serves (library : X509Library Content) (watcher next : Watcher Content) (event : WatchEvent Content)
    (stepped : watchStep library watcher event = some next) :
    next.reloader.cert = watcher.reloader.cert ∨ Forms library watcher next.reloader.cert := by
  cases event with
  | replace name content modTime =>
      obtain ⟨_, moved⟩ := Option.ite_none_right_eq_some.mp stepped
      cases moved
      exact .inl rfl
  | expose name present =>
      cases stepped
      exact .inl rfl
  | tick =>
      cases stepped
      exact polled_serves library watcher _ (poll_tick_polled library watcher)
  | hangup =>
      cases stepped
      rcases signal_reload_cases library watcher with same | ⟨pair, found, usable, moved⟩
      · exact .inl (congrArg (·.reloader.cert) same)
      · rw [moved]
        exact .inr ⟨pair, rfl, found, usable⟩

-- As long as the watcher has seen the files as they are, it serves them.
structure Tracks (watcher : Watcher Content) : Prop where
  files : watcher.disk.cert.modTime ≤ watcher.latest ∧ watcher.disk.key.modTime ≤ watcher.latest
  remembered : watcher.lastCertMod ≤ watcher.latest ∧ watcher.lastKeyMod ≤ watcher.latest
  current : watcher.lastCertMod = 0 ∨
      (watcher.disk.cert.modTime ≤ watcher.lastCertMod ∧ watcher.disk.key.modTime ≤ watcher.lastKeyMod) →
    watcher.reloader.cert = some (watcher.disk.cert.content, watcher.disk.key.content)

theorem put_stamps (disk : Disk Content) (name : PairFile) (file : DiskFile Content) (bound : Nat)
    (files : disk.cert.modTime ≤ bound ∧ disk.key.modTime ≤ bound) (newer : file.modTime ≤ bound) :
    (disk.put name file).cert.modTime ≤ bound ∧ (disk.put name file).key.modTime ≤ bound := by
  cases name with
  | cert => exact ⟨newer, files.2⟩
  | key => exact ⟨files.1, newer⟩

theorem disk_pair (disk : Disk Content) (pair : Content × Content) (found : disk.pair = some pair) :
    pair = (disk.cert.content, disk.key.content) := by
  obtain ⟨_, same⟩ := Option.ite_none_right_eq_some.mp found
  exact (Option.some.inj same).symm

theorem polled_tracks (library : X509Library Content) (watcher next : Watcher Content) (tracks : Tracks watcher)
    (polled : Polled library watcher next) : Tracks next := by
  obtain ⟨files, remembered, current⟩ := tracks
  cases polled with
  | baseline first => exact ⟨files, files, fun _ => current (.inl first)⟩
  | reloaded pair found usable => exact ⟨files, files, fun _ => congrArg some (disk_pair watcher.disk pair found)⟩
  | _ => exact ⟨files, remembered, current⟩

-- The files are replaced once the watcher has remembered their times.
def AfterBaseline (watcher : Watcher Content) : WatchEvent Content → Prop
  | .replace _ _ _ => watcher.lastCertMod ≠ 0
  | _ => True

theorem step_tracks (library : X509Library Content) (watcher next : Watcher Content) (event : WatchEvent Content)
    (tracks : Tracks watcher) (allowed : AfterBaseline watcher event) (stepped : watchStep library watcher event = some next) :
    Tracks next := by
  obtain ⟨files, remembered, current⟩ := tracks
  cases event with
  | replace name content modTime =>
      obtain ⟨newer, moved⟩ := Option.ite_none_right_eq_some.mp stepped
      cases moved
      have earlier := Nat.le_of_lt newer
      refine ⟨put_stamps _ _ _ _ ⟨Nat.le_trans files.1 earlier, Nat.le_trans files.2 earlier⟩ (Nat.le_refl _),
        ⟨Nat.le_trans remembered.1 earlier, Nat.le_trans remembered.2 earlier⟩, ?_⟩
      rintro (first | seen)
      · exact absurd first allowed
      · -- the new file is newer than anything remembered
        cases name with
        | cert => exact absurd seen.1 (Nat.not_le.mpr (Nat.lt_of_le_of_lt remembered.1 newer))
        | key => exact absurd seen.2 (Nat.not_le.mpr (Nat.lt_of_le_of_lt remembered.2 newer))
  | expose name present =>
      cases stepped
      cases name <;> exact ⟨files, remembered, current⟩
  | tick =>
      cases stepped
      exact polled_tracks library watcher _ ⟨files, remembered, current⟩ (poll_tick_polled library watcher)
  | hangup =>
      cases stepped
      rcases signal_reload_cases library watcher with same | ⟨pair, found, _, moved⟩
      · rw [same]
        exact ⟨files, remembered, current⟩
      · rw [moved]
        exact ⟨files, remembered, fun _ => congrArg some (disk_pair watcher.disk pair found)⟩

theorem polled_current (library : X509Library Content) (watcher next : Watcher Content) (tracks : Tracks watcher)
    (polled : Polled library watcher next) (pair : Content × Content) (found : next.disk.pair = some pair)
    (usable : library.pairError pair.1 pair.2 = none) : next.reloader.cert = some pair := by
  cases polled with
  | absent missing => cases missing.symm.trans found
  | baseline first => exact (disk_pair watcher.disk pair found) ▸ tracks.current (.inl first)
  | unchanged seen => exact (disk_pair watcher.disk pair found) ▸ tracks.current (.inr seen)
  | refused unusable => exact absurd usable (unusable pair found)
  | reloaded other same _ => exact same.symm.trans found

theorem watch_files_tracks (library : X509Library Content) (disk : Disk Content) (kind : ReloaderKind) (certFile keyFile : String)
    (reloader : CertReloader Content) (loaded : newCertReloader library disk kind certFile keyFile = .ok reloader) :
    Tracks (watchFiles disk reloader) ∧ Forms library (watchFiles disk reloader) reloader.cert := by
  obtain ⟨pair, found, usable, rfl⟩ := (reload_ok_iff library disk _ reloader).mp loaded
  refine ⟨⟨⟨Nat.le_max_left _ _, Nat.le_max_right _ _⟩, ⟨Nat.zero_le _, Nat.zero_le _⟩, ?_⟩, pair, rfl, found, usable⟩
  intro _
  exact congrArg some (disk_pair disk pair found)

theorem get_certificate_served (reloader : CertReloader Content) (pair : Content × Content) (served : reloader.cert = some pair) :
    getCertificate reloader = .ok pair := by
  rw [getCertificate, served]

theorem polling_serves_disk (library : X509Library Content) (disk : Disk Content) (kind : ReloaderKind) (certFile keyFile : String)
    (reloader : CertReloader Content) (loaded : newCertReloader library disk kind certFile keyFile = .ok reloader)
    (events : List (WatchEvent Content)) (last : Watcher Content)
    (ran : run (watchStep library) (watchFiles disk reloader) events = some last) :
    (∃ pair before after middle, getCertificate last.reloader = .ok pair ∧ events = before ++ after ∧
        run (watchStep library) (watchFiles disk reloader) before = some middle ∧ middle.disk.pair = some pair ∧
        library.pairError pair.1 pair.2 = none) ∧
      (Along (watchStep library) AfterBaseline (watchFiles disk reloader) events →
        ∀ next pair, watchStep library last .tick = some next → next.disk.pair = some pair →
          library.pairError pair.1 pair.2 = none → getCertificate next.reloader = .ok pair) := by
  obtain ⟨tracks, formed⟩ := watch_files_tracks library disk kind certFile keyFile reloader loaded
  constructor
  · rcases run_origin (watchStep library) (·.reloader.cert) (Forms library)
      (fun watcher event next stepped => step_serves library watcher next event stepped) _ last events ran with
      kept | ⟨before, after, middle, parts, reached, pair, served, found, usable⟩
    · obtain ⟨pair, served, found, usable⟩ := formed
      exact ⟨pair, [], events, _, get_certificate_served _ pair (kept.trans served), rfl, rfl, found, usable⟩
    · exact ⟨pair, before, after, middle, get_certificate_served _ pair served, parts, reached, found, usable⟩
  · intro along next pair stepped found usable
    have reached := run_preserves_along (watchStep library) AfterBaseline Tracks
      (fun watcher event next tracks allowed stepped => step_tracks library watcher next event tracks allowed stepped) _ last events
      tracks along ran
    cases stepped
    exact get_certificate_served _ pair
      (polled_current library last _ reached (poll_tick_polled library last) pair found usable)

end

-- Contents are numbers, and a certificate and a key belong together when they
-- are the same number.
def numberPairs : X509Library Nat where
  pairError cert key := if cert = key then none else some "tls: private key does not match public key"
  openError name := "open " ++ name ++ ": no such file or directory"

def firstPair : Disk Nat := ⟨⟨1, 1, true⟩, ⟨1, 1, true⟩⟩

def firstReloader : CertReloader Nat := ⟨.server, "tls.crt", "tls.key", some (1, 1)⟩

-- Both files are replaced before the first poll, which remembers the new times
-- without a load; no later poll looks at the files again.
theorem early_replacement_missed :
    newCertReloader numberPairs firstPair .server "tls.crt" "tls.key" = .ok firstReloader ∧
      ∃ last, run (watchStep numberPairs) (watchFiles firstPair firstReloader)
          [.replace .cert 2 2, .replace .key 2 3, .tick, .tick] = some last ∧
        last.disk.pair = some (2, 2) ∧ numberPairs.pairError 2 2 = none ∧ getCertificate last.reloader = .ok (1, 1) :=
  ⟨rfl, _, rfl, rfl, rfl, rfl⟩

def watchedRun : List (WatchEvent Nat) := [.tick, .replace .cert 2 2, .tick, .replace .key 2 3]

def watchedLast : Watcher Nat := ⟨⟨⟨2, 2, true⟩, ⟨2, 3, true⟩⟩, firstReloader, 1, 1, 3⟩

-- The same replacement behind the first poll, with a poll of the mismatching
-- pair between.
theorem later_replacement_served :
    run (watchStep numberPairs) (watchFiles firstPair firstReloader) watchedRun = some watchedLast ∧
      ∃ next, watchStep numberPairs watchedLast .tick = some next ∧ next.disk.pair = some (2, 2) ∧
        getCertificate next.reloader = .ok (2, 2) := by
  have ran : run (watchStep numberPairs) (watchFiles firstPair firstReloader) watchedRun = some watchedLast := rfl
  refine ⟨ran, _, rfl, rfl, ?_⟩
  refine (polling_serves_disk numberPairs firstPair .server "tls.crt" "tls.key" firstReloader rfl watchedRun watchedLast ran).2 ?_ _ (2, 2)
    rfl rfl rfl
  refine ⟨trivial, ?_⟩
  rintro _ ⟨⟩
  refine ⟨Nat.one_ne_zero, ?_⟩
  rintro _ ⟨⟩
  refine ⟨trivial, ?_⟩
  rintro _ ⟨⟩
  refine ⟨Nat.one_ne_zero, ?_⟩
  rintro _ ⟨⟩
  trivial

end WarpStream
