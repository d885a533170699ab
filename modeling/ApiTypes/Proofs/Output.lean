import Mathlib.Data.Char
import Mathlib.Data.List.Permutation
import ApiTypes.Command.Run
import ApiTypes.Proofs.FileTree
import ApiTypes.Proofs.Resolve.Markers
import ApiTypes.Proofs.Resolve.Spelling
/-!
What a run of the command line leaves behind. A run that fails before all is generated leaves every file as it was.
All others put files into the output directory and nowhere else: those of the generated declarations, and the manifest.
-/
namespace ApiTypes

open FileTree (Makes)

/-! ### Files that are planned -/

/-- Of the planned files those up to some point have been put into the directory, and all of them unless there is an error. -/
def Carries {α : Type} (directory : Text) (planned : List (Text × Text)) (tree : FileTree)
    (result : FileTree × Except OsError α) : Prop :=
  ∃ files, files <+: planned ∧ Makes directory tree files result.1 ∧ ∀ a, result.2 = .ok a → files = planned

variable {α : Type} {directory : Text} {planned earlier : List (Text × Text)} {tree there : FileTree}

theorem carries_error (made : Makes directory tree earlier there) (upTo : earlier <+: planned) (e : OsError) :
    Carries directory planned tree ((there, .error e) : FileTree × Except OsError α) :=
  ⟨earlier, upTo, made, fun _ ran => by simp at ran⟩

theorem carries_all (made : Makes directory tree planned there) (a : α) : Carries directory planned tree (there, .ok a) :=
  ⟨planned, List.prefix_rfl, made, fun _ _ => rfl⟩

theorem Carries.after {result : FileTree × Except OsError α} (made : Makes directory tree earlier there)
    (later : Carries directory planned there result) : Carries directory (earlier ++ planned) tree result := by
  obtain ⟨more, upTo, rest, all⟩ := later
  refine ⟨earlier ++ more, (List.prefix_append_right_inj earlier).mpr upTo, made.trans rest, ?_⟩
  intro a ran
  rw [all a ran]

namespace Sink

def fileOf (declaration : Text × Text) : Text × Text := (declaration.1 ++ ".ts".toList, declaration.2)

theorem usable_single {declaration : Text × Text} (usable : isUsable declaration = true) : '/' ∉ (fileOf declaration).1 := by
  simp only [isUsable, isFileStem, Bool.and_eq_true, Bool.not_eq_true', List.any_eq_false] at usable
  intro slash
  rcases List.mem_append.mp slash with stem | ending
  · exact absurd (usable.1.2 _ stem) (by simp)
  · simp at ending

theorem write_from_carries {declarations : List (Text × Text)} (single : ∀ d ∈ declarations, '/' ∉ (fileOf d).1)
    (tree : FileTree) (written : List Text) :
    Carries directory (declarations.map fileOf) tree (writeFrom directory tree written declarations) := by
  induction declarations generalizing tree written with
  | nil => exact carries_all (.nothing tree) _
  | cons d rest ih =>
    obtain ⟨name, content⟩ := d
    simp only [writeFrom]
    split
    · rename_i next ran
      have first : Makes directory tree [fileOf (name, content)] next :=
        FileTree.write_makes (single (name, content) List.mem_cons_self) ran
      exact (ih (fun d mem => single d (List.mem_cons_of_mem _ mem)) next _).after first
    · exact carries_error (.nothing tree) List.nil_prefix _

theorem write_declarations_carries (tree : FileTree) (directory : Text) (declarations : List (Text × Text)) :
    Carries directory ((declarations.filter isUsable).map fileOf) tree (writeDeclarations tree directory declarations) := by
  have made := FileTree.make_directories_makes directory tree directory
  unfold writeDeclarations
  split
  · rename_i there e failed
    rw [failed] at made
    exact carries_error made List.nil_prefix e
  · rename_i there ran
    rw [ran] at made
    exact (write_from_carries (fun d mem => usable_single (List.mem_filter.mp mem).2) there []).after made

theorem write_file_carries (tree : FileTree) (directory content : Text) {name : Text} (single : '/' ∉ name) :
    Carries directory [(name, content)] tree (writeFile tree directory name content) := by
  have made := FileTree.make_directories_makes directory tree directory
  unfold writeFile
  split
  · rename_i there e failed
    rw [failed] at made
    exact carries_error made List.nil_prefix e
  · rename_i there ran
    rw [ran] at made
    split
    · rename_i last wrote
      exact (carries_all (FileTree.write_makes single wrote) ()).after made
    · exact carries_error made List.nil_prefix _

end Sink

namespace Command

def Output.files (o : Output) : List (Text × Text) :=
  (o.declarations.filter Sink.isUsable).map Sink.fileOf ++ (o.manifest.map fun text => (manifestName, text)).toList

theorem write_output_carries (o : Output) (tree : FileTree) (directory : Text) :
    Carries directory o.files tree (o.write tree directory) := by
  obtain ⟨files, upTo, made, all⟩ := Sink.write_declarations_carries tree directory o.declarations
  unfold Output.write
  split
  · rename_i there e failed
    rw [failed] at made
    exact carries_error made (upTo.trans (List.prefix_append _ _)) e
  · rename_i there paths ran
    rw [ran] at made all
    rw [Output.files, ← all paths rfl]
    split
    · rename_i none
      rw [none, Option.map_none, Option.toList_none, List.append_nil]
      exact carries_all made ()
    · rename_i text some
      rw [some, Option.map_some, Option.toList_some]
      exact (Sink.write_file_carries there directory text (by decide)).after made

/-! ### Files that a run is to write -/

def Reads (c : Command) (world : World) (config : Config) (api : Api) : Prop :=
  c.generatorConfig world.files = .ok config ∧
    ∃ source, c.source world.files = .ok source ∧ source.api world = .ok api

/-- The files that a run is to write, with their contents: one for every declaration that has a text and a name for a file,
and with operations the manifest, if it is wanted. -/
inductive OutputFile (c : Command) (world : World) : (name content : Text) → Prop
  | definition {config : Config} {api : Api} {texts : List (Text × Text)} {name text : Text}
      (verb : c.verb = .definitions) (reads : c.Reads world config api)
      (generated : Api.generateDefinitions config Layout.format api.definitions = .ok texts)
      (listed : (name, text) ∈ texts) (usable : Sink.isUsable (name, text) = true) :
      OutputFile c world (name ++ ".ts".toList) text
  | operation {config : Config} {api : Api} {artifacts : Api.Artifacts} {route : Text} {ofRoute : List Artifact}
      {artifact : Artifact} {declared : Declared}
      (verb : c.verb = .paths) (reads : c.Reads world config api)
      (generated : Api.generatePaths config Layout.format api = .ok artifacts) (routed : (route, ofRoute) ∈ artifacts)
      (listed : artifact ∈ ofRoute) (named : declared ∈ artifact.declared)
      (usable : Sink.isUsable (declared.name, declared.text) = true) :
      OutputFile c world (declared.name ++ ".ts".toList) declared.text
  | manifest {config : Config} {api : Api} {artifacts : Api.Artifacts}
      (verb : c.verb = .paths) (wanted : c.manifest = true) (reads : c.Reads world config api)
      (generated : Api.generatePaths config Layout.format api = .ok artifacts) :
      OutputFile c world "paths.json".toList (Api.manifest artifacts).pretty

theorem Reads.unique {c : Command} {world : World} {config config' : Config} {api api' : Api}
    (reads : c.Reads world config api) (again : c.Reads world config' api') : config' = config ∧ api' = api := by
  obtain ⟨read, source, found, resolved⟩ := reads
  obtain ⟨read', source', found', resolved'⟩ := again
  rw [read] at read'
  rw [found] at found'
  cases read'
  cases found'
  rw [resolved] at resolved'
  cases resolved'
  exact ⟨rfl, rfl⟩

def outputOf (c : Command) (config : Config) (api : Api) : Except Collision Output :=
  match c.verb with
  | .definitions => definitionsOutput config api
  | .paths => pathsOutput c.manifest config api

theorem generate_of_reads {c : Command} {world : World} {config : Config} {api : Api} (reads : c.Reads world config api) :
    c.generate world = (c.outputOf config api).mapError fun e => .error (.collision e) := by
  obtain ⟨read, source, found, resolved⟩ := reads
  simp only [generate, read, found, resolved, bind, Except.bind, Except.mapError]
  rfl

theorem generate_reads {c : Command} {world : World} {o : Output} (ran : c.generate world = .ok o) :
    ∃ config api, c.Reads world config api ∧ c.outputOf config api = .ok o := by
  obtain ⟨config, read, rest⟩ := bind_ok ran
  obtain ⟨source, found, rest⟩ := bind_ok rest
  obtain ⟨api, resolved, rest⟩ := bind_ok rest
  exact ⟨config, api, ⟨read, source, found, map_error_ok resolved⟩, map_error_ok rest⟩

theorem definitions_output_files {c : Command} {world : World} {config : Config} {api : Api} {o : Output}
    (verb : c.verb = .definitions) (reads : c.Reads world config api) (ran : definitionsOutput config api = .ok o)
    (name content : Text) : (name, content) ∈ o.files ↔ c.OutputFile world name content := by
  obtain ⟨texts, generated, made⟩ := bind_ok ran
  cases made
  have files : Output.files ⟨texts, none⟩ = (texts.filter Sink.isUsable).map Sink.fileOf := by simp [Output.files]
  rw [files]
  constructor
  · intro mem
    obtain ⟨⟨stem, text⟩, kept, same⟩ := List.mem_map.mp mem
    obtain ⟨listed, usable⟩ := List.mem_filter.mp kept
    cases same
    exact .definition verb reads generated listed usable
  · intro file
    cases file with
    | definition _ again generated' listed usable =>
      obtain ⟨rfl, rfl⟩ := reads.unique again
      rw [generated] at generated'
      cases generated'
      exact List.mem_map.mpr ⟨_, List.mem_filter.mpr ⟨listed, usable⟩, rfl⟩
    | operation other => simp [verb] at other
    | manifest other => simp [verb] at other

theorem paths_output_files {c : Command} {world : World} {config : Config} {api : Api} {o : Output}
    (verb : c.verb = .paths) (reads : c.Reads world config api) (ran : pathsOutput c.manifest config api = .ok o)
    (name content : Text) : (name, content) ∈ o.files ↔ c.OutputFile world name content := by
  obtain ⟨artifacts, generated, made⟩ := bind_ok ran
  cases made
  simp only [Output.files, List.mem_append, List.mem_map, List.mem_filter, List.mem_flatMap, Option.mem_toList,
    Option.map_eq_some_iff]
  constructor
  · rintro (⟨_, ⟨⟨declared, origin, rfl⟩, usable⟩, same⟩ | ⟨text, wanted, same⟩)
    · obtain ⟨⟨route, ofRoute⟩, routed, artifact, listed, named⟩ := origin
      cases same
      exact .operation verb reads generated routed listed named usable
    · cases same
      split at wanted
      · rename_i wants
        cases wanted
        exact .manifest verb wants reads generated
      · simp at wanted
  · intro file
    cases file with
    | definition other => simp [verb] at other
    | operation _ again generated' routed listed named usable =>
      obtain ⟨rfl, rfl⟩ := reads.unique again
      rw [generated] at generated'
      cases generated'
      exact .inl ⟨_, ⟨⟨_, ⟨_, routed, _, listed, named⟩, rfl⟩, usable⟩, rfl⟩
    | manifest _ wanted again generated' =>
      obtain ⟨rfl, rfl⟩ := reads.unique again
      rw [generated] at generated'
      cases generated'
      exact .inr ⟨_, if_pos wanted, rfl⟩

theorem output_files {c : Command} {world : World} {o : Output} (ran : c.generate world = .ok o) (name content : Text) :
    (name, content) ∈ o.files ↔ c.OutputFile world name content := by
  obtain ⟨config, api, reads, made⟩ := generate_reads ran
  unfold outputOf at made
  split at made
  · rename_i verb
    exact definitions_output_files verb reads made name content
  · rename_i verb
    exact paths_output_files verb reads made name content

/-! ### Whole runs -/

theorem run_unwritten {c : Command} {world : World} {failure : Failure} (failed : c.generate world = .error failure) :
    c.run world = (world.files, .error failure) := by
  simp only [run, failed]

theorem run_written {c : Command} {world : World} {o : Output} (ran : c.generate world = .ok o) :
    c.run world = ((o.write world.files c.outDir).1, (o.write world.files c.outDir).2.mapError .output) := by
  simp only [run, ran]

/-- A run that fails before anything is written leaves all files as they were. Every other run changes and makes files in the
output directory only, and only such as it is to write; a run that succeeds has written all of them. -/
theorem failed_runs_write_nothing (c : Command) (world : World) :
    ∃ after result, c.run world = (after, result) ∧
      (∀ failure, result = .error failure → (∀ e, failure ≠ .output e) → after = world.files) ∧
      after.home = world.files.home ∧
      (∀ place, after.find? place ≠ world.files.find? place →
        (world.files.find? place = none ∧ after.find? place = some .directory) ∨
        ∃ parent name content, after.Leads c.outDir parent ∧ place = parent ++ [name] ∧ c.OutputFile world name content ∧
          after.find? place = some (.file (Text.Utf8.encode content))) ∧
      (result = .ok () → ∀ name content, c.OutputFile world name content →
        ∃ parent content', after.Leads c.outDir parent ∧ c.OutputFile world name content' ∧
          after.find? (parent ++ [name]) = some (.file (Text.Utf8.encode content'))) := by
  cases ran : c.generate world with
  | error failure =>
    refine ⟨world.files, .error failure, run_unwritten ran, fun _ _ _ => rfl, rfl, ?_, ?_⟩
    · intro place changed
      exact absurd rfl changed
    · intro succeeded
      cases succeeded
  | ok o =>
    obtain ⟨files, upTo, made, all⟩ := write_output_carries o world.files c.outDir
    refine ⟨_, _, run_written ran, ?_, made.keeps.home, ?_, ?_⟩
    · intro failure failed other
      cases wrote : (o.write world.files c.outDir).2 with
      | error e =>
        rw [wrote] at failed
        exact absurd (Except.error.inj failed).symm (other e)
      | ok _ => simp [wrote, Except.mapError] at failed
    · intro place changed
      rcases made.entry place with ⟨parent, name, content, leads, stands, last, found⟩ | ⟨_, same | new⟩
      · have written : (name, content) ∈ o.files := upTo.mem (List.mem_reverse.mp (Ordered.get_mem last))
        exact .inr ⟨parent, name, content, leads, stands, (output_files ran name content).mp written, found⟩
      · exact absurd same changed
      · exact .inl new
    · intro succeeded name content file
      have whole := all () (map_error_ok succeeded)
      subst whole
      have planned := (output_files ran name content).mpr file
      obtain ⟨parent, leads⟩ := made.leads (List.ne_nil_of_mem planned)
      rcases made.entry (parent ++ [name]) with ⟨_, _, content', _, stands, last, found⟩ | ⟨unwritten, _⟩
      · obtain ⟨rfl, same⟩ := List.append_inj' stands rfl
        cases same
        have written := List.mem_reverse.mp (Ordered.get_mem last)
        exact ⟨parent, content', leads, (output_files ran name content').mp written, found⟩
      · exact absurd (List.mem_map.mpr ⟨_, planned, rfl⟩) (unwritten parent name leads rfl)

def coinsText : Text := "\x7b\"definitions\":\x7b\"coin\":\x7b\x7d,\"Coin\":\x7b\x7d\x7d\x7d".toList

def coinsDocument : Json := .obj [("definitions".toList, .obj [("coin".toList, .obj []), ("Coin".toList, .obj [])])]

def coinsApi : Api := ⟨[("coin".toList, .any Notes.none), ("Coin".toList, .any Notes.none)], []⟩

def coinsWorld : World := Resolve.filesAlone [("api.json".toList, coinsText)]

def coinsCommand (strict : Bool) : Command :=
  ⟨.definitions, "api.json".toList, none, "out/types".toList, none, none, strict, true⟩

def coinsConfig (strict : Bool) : Config := { Config.standard with strictNames := strict }

def coinLayout : Text := "export type Coin = any;\n".toList

def coinPlace : Place := ["out".toList, "types".toList, "Coin.ts".toList]

def coinCollision : Collision := ⟨"Coin".toList, "definition 'coin'".toList, "definition 'Coin'".toList⟩

theorem coins_read : coinsWorld.readDocument "api.json".toList = .ok coinsDocument := by
  have located : coinsWorld.files.locate "api.json".toList = .ok ["api.json".toList] := rfl
  have parsed : Json.read? coinsText = some coinsDocument := by cbv
  exact World.read_json located rfl (by decide) parsed

theorem coins_reads (strict : Bool) : (coinsCommand strict).Reads coinsWorld (coinsConfig strict) coinsApi := by
  have opened := Resolve.open_path rfl coins_read
  have resolved : (Source.path "api.json".toList).resolve coinsWorld = .ok coinsDocument := by
    rw [Source.resolve, Source.resolveIn, Resolve.run_opened opened]
    rw [Resolve.expand_unreferenced _ _ _ coinsDocument _ rfl]
    rfl
  refine ⟨rfl, .path "api.json".toList, rfl, ?_⟩
  rw [Source.api, resolved]
  rfl

theorem coins_generated :
    Api.generateDefinitions (coinsConfig false) Layout.format coinsApi.definitions = .ok [("Coin".toList, coinLayout)] := rfl

theorem coins_written_unless_strict :
    (coinsCommand true).run coinsWorld = (coinsWorld.files, .error (.error (.collision coinCollision))) ∧
    ∃ after, (coinsCommand false).run coinsWorld = (after, .ok ()) ∧
      after.find? coinPlace ≠ coinsWorld.files.find? coinPlace ∧
      (∃ parent name content, after.Leads "out/types".toList parent ∧ coinPlace = parent ++ [name] ∧
        (coinsCommand false).OutputFile coinsWorld name content) ∧
      ∃ parent content, after.Leads "out/types".toList parent ∧
        (coinsCommand false).OutputFile coinsWorld "Coin.ts".toList content ∧
        after.find? (parent ++ ["Coin.ts".toList]) = some (.file (Text.Utf8.encode content)) := by
  constructor
  · obtain ⟨after, result, ran, unwritten, _⟩ := failed_runs_write_nothing (coinsCommand true) coinsWorld
    have generated : (coinsCommand true).generate coinsWorld = .error (.error (.collision coinCollision)) :=
      (generate_of_reads (coins_reads true)).trans rfl
    have failed : .error (.error (.collision coinCollision)) = result := by
      rw [run_unwritten generated] at ran
      exact congrArg Prod.snd ran
    rw [ran, ← failed, unwritten _ failed.symm (by simp)]
  · obtain ⟨after, result, ran, _, _, changes, written⟩ := failed_runs_write_nothing (coinsCommand false) coinsWorld
    have generated : (coinsCommand false).generate coinsWorld = .ok ⟨[("Coin".toList, coinLayout)], none⟩ :=
      (generate_of_reads (coins_reads false)).trans rfl
    have wrote := ran
    rw [run_written generated] at wrote
    have succeeded : .ok () = result := congrArg Prod.snd wrote
    have stands : some (.file (Text.Utf8.encode coinLayout)) = after.find? coinPlace :=
      congrArg (fun run => run.1.find? coinPlace) wrote
    have free : coinsWorld.files.find? coinPlace = none := rfl
    have changed : after.find? coinPlace ≠ coinsWorld.files.find? coinPlace := by
      rw [← stands, free]
      simp
    have file : (coinsCommand false).OutputFile coinsWorld "Coin.ts".toList coinLayout :=
      .definition rfl (coins_reads false) coins_generated List.mem_cons_self (by decide)
    refine ⟨after, by rw [ran, succeeded], changed, ?_, written succeeded.symm _ _ file⟩
    rcases changes coinPlace changed with ⟨_, directory⟩ | ⟨parent, name, content, leads, place, file, _⟩
    · rw [← stands] at directory
      simp at directory
    · exact ⟨parent, name, content, leads, place, file⟩

end Command

end ApiTypes
