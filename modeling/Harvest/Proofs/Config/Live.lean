import Harvest.Config.Live
import Mathlib.Tactic.Common

/-!
A configuration in use over the life of its file. Whatever is written, deleted, loaded and reloaded, it
is what a valid text of the file said, and a reload that fails changes nothing. If signatures and
digests tell the texts of the file apart, every reload that goes well leaves what the file says now.
-/

namespace Harvest.Config

theorem read_ok {text : String} {config : Config} (ok : read text = .ok config) :
    decode text = .ok config ∧ config.validate = .ok () := by
  unfold read at ok
  cases decoded : decode text with
  | error e =>
    rw [decoded] at ok
    cases ok
  | ok other =>
    rw [decoded] at ok
    cases valid : other.validate with
    | error e =>
      simp only [bind, Except.bind, valid] at ok
      cases ok
    | ok _ =>
      simp only [bind, Except.bind, valid] at ok
      cases ok
      exact ⟨rfl, valid⟩

theorem readFile_ok {file : File} {config : Config} {hash : String}
    (ok : readFile file = .ok (config, hash)) :
    ∃ text, file.text = .ok text ∧ read text = .ok config ∧ hash = Digest.Sha256.hexOfText text := by
  unfold readFile at ok
  cases known : file.text with
  | error e =>
    rw [known] at ok
    cases ok
  | ok text =>
    rw [known] at ok
    cases valid : read text with
    | error e =>
      simp only [bind, Except.bind, valid] at ok
      cases ok
    | ok other =>
      simp only [bind, Except.bind, valid] at ok
      cases ok
      exact ⟨text, rfl, valid, rfl⟩

namespace Live

/-- All that a reload can do: it fails, the file looks as before, it was only touched, or it holds a
new configuration. -/
theorem reload_cases {live : Live} {origin : Origin} (known : live.origin = some origin) (place : Place) :
    (∃ e, live.reload place = (live, .error e) ∧
      ∀ file config hash, place = some file → file.signature ≠ origin.signature →
        readFile file ≠ .ok (config, hash)) ∨
    ∃ file, place = some file ∧ (
      (file.signature = origin.signature ∧ live.reload place = (live, .ok false)) ∨
      file.signature ≠ origin.signature ∧ ∃ config hash, readFile file = .ok (config, hash) ∧
        ((hash = origin.hash ∧
            live.reload place = ({ live with origin := some ⟨file.signature, hash⟩ }, .ok false)) ∨
          hash ≠ origin.hash ∧ live.reload place =
            (⟨config, some ⟨file.signature, hash⟩, live.generation + 1⟩, .ok true))) := by
  unfold reload
  rw [known]
  cases place with
  | none => exact Or.inl ⟨missing, rfl, nofun⟩
  | some file =>
    by_cases same : file.signature = origin.signature
    · exact Or.inr ⟨file, rfl, Or.inl ⟨same, by simp [Place.file, same]⟩⟩
    · cases loaded : readFile file with
      | error e =>
        refine Or.inl ⟨e, by simp [Place.file, same, loaded], ?_⟩
        rintro other config hash ⟨⟩ -
        simp [loaded]
      | ok answer =>
        obtain ⟨config, hash⟩ := answer
        refine Or.inr ⟨file, rfl, Or.inr ⟨same, config, hash, loaded, ?_⟩⟩
        by_cases touched : hash = origin.hash
        · exact Or.inl ⟨touched, by simp [Place.file, same, loaded, touched]⟩
        · exact Or.inr ⟨touched, by simp [Place.file, same, loaded, touched]⟩

theorem reload_error {live : Live} {place : Place} {e : Error} (failed : (live.reload place).2 = .error e) :
    (live.reload place).1 = live := by
  cases known : live.origin with
  | none => simp [reload, known]
  | some origin =>
    rcases reload_cases known place with ⟨other, same, -⟩ | ⟨file, -, ⟨-, same⟩ | ⟨-, config, hash, -, ⟨-, same⟩ | ⟨-, same⟩⟩⟩
    · rw [same]
    all_goals
      rw [same] at failed
      cases failed

theorem reload_true_iff {live : Live} {origin : Origin} (known : live.origin = some origin)
    (place : Place) : (live.reload place).2 = .ok true ↔
      ∃ file config hash, place = some file ∧ file.signature ≠ origin.signature ∧
        readFile file = .ok (config, hash) ∧ hash ≠ origin.hash := by
  constructor
  · intro swapped
    rcases reload_cases known place with ⟨e, same, -⟩ | ⟨file, here, ⟨-, same⟩ | ⟨differs, config, hash, loaded, ⟨-, same⟩ | ⟨other, same⟩⟩⟩
    · rw [same] at swapped
      cases swapped
    · rw [same] at swapped
      cases swapped
    · rw [same] at swapped
      cases swapped
    · exact ⟨file, config, hash, here, differs, loaded, other⟩
  · rintro ⟨file, config, hash, rfl, differs, loaded, other⟩
    simp [reload, known, Place.file, differs, loaded, other]

end Live

/-! ### The life of a file -/

/-- What can happen to the file and to the configuration that follows it. -/
inductive Step where
  | write (file : File)
  | delete
  | load
  | reload

/-- A file so far, and the configuration in use. -/
structure History where
  place : Place
  /-- The file as it was at any time. -/
  files : List File
  live : Option Live
  /-- The outcomes of the reloads since the configuration was loaded. -/
  outcomes : List (Except Error Bool)

namespace History

def new (place : Place) : History := ⟨place, place.toList, none, []⟩

/-- A load that fails leaves what was there. -/
def after (h : History) : Step → History
  | .write file => { h with place := some file, files := h.files ++ [file] }
  | .delete => { h with place := none }
  | .load =>
    match Live.load h.place with
    | .ok live => { h with live := some live, outcomes := [] }
    | .error _ => h
  | .reload =>
    match h.live with
    | none => h
    | some live =>
      { h with
        live := some (live.reload h.place).1
        outcomes := h.outcomes ++ [(live.reload h.place).2] }

def afterAll (h : History) (steps : List Step) : History := steps.foldl after h

/-- How many reloads found a new configuration. -/
def swaps (h : History) : Nat :=
  h.outcomes.countP fun
    | .ok changed => changed
    | .error _ => false

/-- Signatures tell the contents of the file apart, and digests its texts. -/
structure Tells (h : History) : Prop where
  contents : ∀ file ∈ h.files, ∀ other ∈ h.files, file.signature = other.signature →
    file.bytes = other.bytes
  texts : ∀ file ∈ h.files, ∀ other ∈ h.files,
    file.text.map Digest.Sha256.hexOfText = other.text.map Digest.Sha256.hexOfText → file.text = other.text

/-- What a configuration in use goes back to: a text of the file that says it, and the file when it was
last looked into, which has the same digest. -/
structure Backs (files : List File) (live : Live) (origin : Origin) : Prop where
  known : live.origin = some origin
  source : ∃ file ∈ files, ∃ text, file.text = .ok text ∧ read text = .ok live.current ∧
    origin.hash = Digest.Sha256.hexOfText text
  seen : ∃ file ∈ files, file.signature = origin.signature ∧ ∃ text, file.text = .ok text ∧
    origin.hash = Digest.Sha256.hexOfText text

variable {files later : List File} {live : Live} {origin : Origin}

theorem Backs.mono (backs : Backs files live origin) (grown : files ⊆ later) : Backs later live origin := by
  obtain ⟨known, ⟨source, member, parsed⟩, ⟨seen, member', looked⟩⟩ := backs
  exact ⟨known, ⟨source, grown member, parsed⟩, ⟨seen, grown member', looked⟩⟩

theorem load_backs {place : Place} (present : ∀ file ∈ place, file ∈ files)
    (ok : Live.load place = .ok live) : live.generation = 1 ∧ ∃ origin, Backs files live origin := by
  cases place with
  | none => cases ok
  | some file =>
    cases loaded : readFile file with
    | error e =>
      simp only [Live.load, Place.file, bind, Except.bind, loaded] at ok
      cases ok
    | ok answer =>
      obtain ⟨config, hash⟩ := answer
      simp only [Live.load, Place.file, bind, Except.bind, loaded] at ok
      cases ok
      obtain ⟨text, is, parsed, digest⟩ := readFile_ok loaded
      have member := present file rfl
      exact ⟨rfl, ⟨file.signature, hash⟩, rfl, ⟨file, member, text, is, parsed, digest⟩,
        ⟨file, member, rfl, text, is, digest⟩⟩

theorem Backs.reload (backs : Backs files live origin) {place : Place}
    (present : ∀ file ∈ place, file ∈ files) : ∃ origin, Backs files (live.reload place).1 origin := by
  rcases Live.reload_cases backs.known place with ⟨e, same, -⟩ | ⟨file, rfl, ⟨-, same⟩ | ⟨-, config, hash, loaded, ⟨touched, same⟩ | ⟨-, same⟩⟩⟩
  · rw [same]
    exact ⟨origin, backs⟩
  · rw [same]
    exact ⟨origin, backs⟩
  all_goals
    obtain ⟨text, is, parsed, digest⟩ := readFile_ok loaded
    have member := present file rfl
    rw [same]
    refine ⟨⟨file.signature, hash⟩, rfl, ?_, ⟨file, member, rfl, text, is, digest⟩⟩
  · rw [touched]
    exact backs.source
  · exact ⟨file, member, text, is, parsed, digest⟩

/-- What a history knows: the present file is one of its files, and the configuration in use goes back
to them and counts the reloads that changed it. -/
private structure Kept (h : History) : Prop where
  present : ∀ file ∈ h.place, file ∈ h.files
  backs : ∀ live ∈ h.live, ∃ origin, Backs h.files live origin
  generation : ∀ live ∈ h.live, live.generation = 1 + h.swaps

private theorem reload_generation (known : live.origin = some origin) (place : Place) :
    (live.reload place).1.generation = live.generation +
      (match (live.reload place).2 with
        | .ok true => 1
        | _ => 0) := by
  rcases Live.reload_cases known place with ⟨e, same, -⟩ | ⟨file, -, ⟨-, same⟩ | ⟨-, config, hash, -, ⟨-, same⟩ | ⟨-, same⟩⟩⟩
  · simp only [same, Nat.add_zero]
  · simp only [same, Nat.add_zero]
  · simp only [same, Nat.add_zero]
  · simp only [same]

private theorem Kept.after {h : History} (kept : Kept h) (step : Step) : Kept (h.after step) := by
  cases step with
  | write file =>
    refine ⟨?_, ?_, kept.generation⟩
    · rintro other ⟨⟩
      exact List.mem_append_right _ List.mem_cons_self
    · intro live is
      obtain ⟨origin, backs⟩ := kept.backs live is
      exact ⟨origin, backs.mono (List.subset_append_left _ _)⟩
  | delete => exact ⟨fun _ => nofun, kept.backs, kept.generation⟩
  | load =>
    simp only [History.after]
    split
    next live ok =>
      obtain ⟨first, backs⟩ := load_backs kept.present ok
      refine ⟨kept.present, ?_, ?_⟩
      · rintro other ⟨⟩
        exact backs
      · rintro other ⟨⟩
        exact first
    · exact kept
  | reload =>
    simp only [History.after]
    split
    · exact kept
    next live is =>
      obtain ⟨origin, backs⟩ := kept.backs live is
      refine ⟨kept.present, ?_, ?_⟩
      · rintro other ⟨⟩
        exact backs.reload kept.present
      · rintro other ⟨⟩
        have counted := kept.generation live is
        have grown := reload_generation backs.known h.place
        rw [grown, counted]
        simp only [swaps, List.countP_append, List.countP_singleton]
        cases outcome : (live.reload h.place).2 with
        | error e => rfl
        | ok changed =>
          cases changed with
          | false => rfl
          | true => exact Nat.add_assoc 1 _ 1

private theorem Kept.afterAll {h : History} (kept : Kept h) (steps : List Step) :
    Kept (h.afterAll steps) := by
  induction steps generalizing h with
  | nil => exact kept
  | cons step rest ih => exact ih (kept.after step)

variable {h : History} {file other : File}

theorem Tells.text_eq (tells : h.Tells) (member : file ∈ h.files) (member' : other ∈ h.files)
    (same : file.signature = other.signature) : file.text = other.text := by
  unfold File.text
  rw [tells.contents file member other member' same]

theorem Tells.text_inj (tells : h.Tells) (member : file ∈ h.files) (member' : other ∈ h.files)
    {text text' : String} (is : file.text = .ok text) (is' : other.text = .ok text')
    (same : Digest.Sha256.hexOfText text = Digest.Sha256.hexOfText text') : text = text' := by
  have equal := tells.texts file member other member' (by rw [is, is', Except.map, Except.map, same])
  rw [is, is'] at equal
  exact Except.ok.inj equal

/-- After a reload that went well, the configuration in use is what the file says now. -/
private theorem Backs.current (tells : h.Tells) (present : ∀ file ∈ h.place, file ∈ h.files)
    (backs : Backs h.files live origin) {changed : Bool} (ok : (live.reload h.place).2 = .ok changed) :
    ∃ file text, h.place = some file ∧ file.text = .ok text ∧
      read text = .ok (live.reload h.place).1.current := by
  obtain ⟨source, inFiles, text, is, parsed, digest⟩ := backs.source
  rcases Live.reload_cases backs.known h.place with ⟨e, same, -⟩ | ⟨file, here, ⟨unchanged, same⟩ | ⟨-, config, hash, loaded, ⟨touched, same⟩ | ⟨-, same⟩⟩⟩
  · rw [same] at ok
    cases ok
  · -- The file looks as when it was last looked into, and so it is the same text.
    obtain ⟨seen, inFiles', looked, text', is', digest'⟩ := backs.seen
    have content := tells.text_eq (present file here) inFiles' (unchanged.trans looked.symm)
    have text_eq := tells.text_inj inFiles' inFiles is' is (digest'.symm.trans digest)
    rw [same]
    exact ⟨file, text, here, by rw [content, is', text_eq], parsed⟩
  · obtain ⟨text', is', parsed', digest'⟩ := readFile_ok loaded
    have text_eq := tells.text_inj (present file here) inFiles is' is
      (digest'.symm.trans (touched.trans digest))
    rw [same]
    exact ⟨file, text, here, text_eq ▸ is', parsed⟩
  · obtain ⟨text', is', parsed', -⟩ := readFile_ok loaded
    rw [same]
    exact ⟨file, text', here, is', parsed'⟩

/-- Whatever happened to the file, the configuration in use is a valid one that a text of the file
said, known by the digest of that text, and its generation counts the reloads that found a new one. A
reload that fails changes nothing; one finds a new configuration exactly if the file looks different,
can be read, and has another digest. If signatures and digests tell texts apart, a reload that goes
well leaves what the file says now. -/
theorem live_follows_file (place : Place) (steps : List Step) (live : Live) :
    let h := (new place).afterAll steps
    h.live = some live → ∃ origin, live.origin = some origin ∧
      (∃ file ∈ h.files, ∃ text, file.text = .ok text ∧ decode text = .ok live.current ∧
        live.current.validate = .ok () ∧ origin.hash = Digest.Sha256.hexOfText text) ∧
      (∀ e, (live.reload h.place).2 = .error e → (live.reload h.place).1 = live) ∧
      live.generation = 1 + h.swaps ∧
      ((live.reload h.place).2 = .ok true ↔
        ∃ file config hash, h.place = some file ∧ file.signature ≠ origin.signature ∧
          readFile file = .ok (config, hash) ∧ hash ≠ origin.hash) ∧
      (h.Tells → ∀ changed, (live.reload h.place).2 = .ok changed →
        ∃ file text, h.place = some file ∧ file.text = .ok text ∧
          decode text = .ok (live.reload h.place).1.current) := by
  intro h is
  have start : Kept (new place) := ⟨fun file here => Option.mem_toList.mpr here, fun _ => nofun, fun _ => nofun⟩
  have kept : Kept h := start.afterAll steps
  obtain ⟨origin, backs⟩ := kept.backs live is
  refine ⟨origin, backs.known, ?_, fun e => Live.reload_error, kept.generation live is,
    Live.reload_true_iff backs.known h.place, ?_⟩
  · obtain ⟨file, member, text, content, parsed, digest⟩ := backs.source
    exact ⟨file, member, text, content, (read_ok parsed).1, (read_ok parsed).2, digest⟩
  · intro tells changed ok
    obtain ⟨file, text, here, content, parsed⟩ := backs.current tells kept.present ok
    exact ⟨file, text, here, content, (read_ok parsed).1⟩

/-- A file that is loaded empty, spoilt, and then written anew. -/
def mended : History :=
  (new (some ⟨[], 1⟩)).afterAll [.load, .write ⟨[0x5b], 2⟩, .reload, .write ⟨[0x23], 3⟩]

theorem mended_tells : mended.Tells := ⟨by decide, by decide +kernel⟩

theorem live_follows_file_mended : ∃ live, mended.live = some live ∧ mended.Tells ∧
    (live.reload mended.place).2 = .ok true ∧ live.generation = 1 ∧
    ∃ file text, mended.place = some file ∧ file.text = .ok text ∧
      decode text = .ok (live.reload mended.place).1.current := by
  have loaded : (mended.live.map fun live => (live.reload mended.place).2) = some (.ok true) := by
    decide +kernel
  obtain ⟨live, is, swapped⟩ := Option.map_eq_some_iff.mp loaded
  obtain ⟨origin, -, -, -, counted, -, current⟩ := live_follows_file (some ⟨[], 1⟩)
    [.load, .write ⟨[0x5b], 2⟩, .reload, .write ⟨[0x23], 3⟩] live is
  exact ⟨live, is, mended_tells, swapped, counted.trans (by decide +kernel), current mended_tells true swapped⟩

end History

end Harvest.Config
