import EchoServer.LogRotation
import EchoServer.ParseIni
import EchoServer.ReplaceAllChar

/-!
# The configuration of the server

`ServerConfig.cpp`, and the part of `main.cpp` that hands the configuration of
the log to `initLog`.  The file gives the size of a log file in megabytes;
`load` multiplies it in an `int`, and `setConfig` takes it as an unsigned
number.
-/

namespace EchoServer

open LabelledRun

/-- How `ServerConfig::load` goes wrong: in a function on strings, or because
the product leaves the range of `int`. -/
inductive ConfigFault
  | string (fault : StringFault)
  | overflow

/-- The fields of `ServerConfig`. -/
structure ServerConfig where
  sLogFileName : Bytes
  nLogFileSize : Int
  nLogLevel : Int
  nStdOut : Bool
  nServerID : Int
  nListenPort : Int
  nServerTimeOut : Int
  nServerThreads : Int
  nClientThreads : Int
  nMaxSockets : Int
  nPairDealCount : Int
  nDaemon : Bool

namespace ServerConfig

/-- What `load` returns, and the configuration then. -/
abbrev Loading :=
  Except ConfigFault (Bool × ServerConfig)

/-- `GET_BASE`: `set` stores the value, or the default one. -/
def getBase {α : Type} (found : Option α) (set : α → ServerConfig)
    (defaultValue : α) (failreturn : Bool)
    (behind : ServerConfig → Loading) : Loading :=
  match found with
  | some value => behind (set value)
  | none =>
      if failreturn then .ok (false, set defaultValue)
      else behind (set defaultValue)

/-- `replaceAllChar(_sLogFileName, from, PF)`. -/
def replaceSeparator (pf separator : UInt8) (config : ServerConfig)
    (behind : ServerConfig → Loading) : Loading :=
  match replaceAllChar config.sLogFileName [separator] [pf] with
  | .error fault => .error (.string fault)
  | .ok sLogFileName => behind { config with sLogFileName }

/-- `_nLogFileSize *= (1024 * 1024)`. -/
def scaleFileSize (config : ServerConfig) (behind : ServerConfig → Loading) :
    Loading :=
  let product := config.nLogFileSize * (1024 * 1024)
  if -2 ^ 31 ≤ product ∧ product < 2 ^ 31 then
    behind { config with nLogFileSize := product }
  else
    .error .overflow

/-- The `[server]` part of `load`. -/
def loadServer (unrepresentable : Int → Int) (ini : ParserIni)
    (config : ServerConfig) : Loading :=
  let getInt (key : String) : Option Int :=
    ini.getInt unrepresentable (text "server") (text key)
  getBase (getInt "serverid") ({ config with nServerID := · }) 0 true
    fun config =>
  getBase (getInt "listenport") ({ config with nListenPort := · }) 0 true
    fun config =>
  getBase (getInt "timeout") ({ config with nServerTimeOut := · }) 120 false
    fun config =>
  getBase (getInt "serverthreads") ({ config with nServerThreads := · }) 2
      false fun config =>
  getBase (getInt "clientthreads") ({ config with nClientThreads := · }) 2
      false fun config =>
  getBase (getInt "maxsockets") ({ config with nMaxSockets := · }) 5000 false
    fun config =>
  getBase (getInt "pairdealcount") ({ config with nPairDealCount := · }) 5000
      false fun config =>
  getBase (ini.getBool (text "server") (text "daemon"))
      ({ config with nDaemon := · }) false false fun config =>
  .ok (true, config)

/-- `load` once the file has been parsed. -/
def loadIni (pf : UInt8) (unrepresentable : Int → Int) (ini : ParserIni)
    (config : ServerConfig) : Loading :=
  let getInt (key : String) : Option Int :=
    ini.getInt unrepresentable (text "log") (text key)
  let sLogFileName :=
    match ini.getString (text "log") (text "filename") with
    | some value => value
    | none => text "server"
  replaceSeparator pf 92 { config with sLogFileName } fun config =>
  replaceSeparator pf 47 config fun config =>
  getBase (getInt "filesize") ({ config with nLogFileSize := · }) 256 false
    fun config =>
  getBase (getInt "loglevel") ({ config with nLogLevel := · }) 0 false
    fun config =>
  getBase (ini.getBool (text "log") (text "stdout"))
      ({ config with nStdOut := · }) true false fun config =>
  scaleFileSize config fun config =>
  loadServer unrepresentable ini config

/-- `ServerConfig::load` of a file that could be opened; `pf` is the separator
in paths, which depends on the platform. -/
def load (pf : UInt8) (unrepresentable : Int → Int) (file : Bytes)
    (config : ServerConfig) : Loading :=
  match ParserIni.load file with
  | .error fault => .error (.string fault)
  | .ok (false, _) => .ok (false, config)
  | .ok (true, ini) => loadIni pf unrepresentable ini config

/-- The characters of a name. -/
def characters (name : Bytes) : List Char :=
  name.map fun byte => Char.ofNat byte.toNat

/-- `initLog` as `main` calls it; the size is converted to `unsigned int`. -/
def initLog (modulePath : Bytes) (nNowDay : Nat) (config : ServerConfig) :
    LogFiles :=
  .setConfig (characters (modulePath ++ config.sLogFileName))
    (config.nLogFileSize % 2 ^ 32).toNat nNowDay

/-- In every run of the log, `openFile` finds this limit. -/
def LimitIs (limit : Int) (files : LogFiles) : Prop :=
  ∀ (log : Log) (actions : List (LogAction LogOutside)),
    HoldsWhereReached (LogState.step LogFiles.logOutput)
      (fun state => (state.files.nFileSize : Int) = limit)
      (LogState.start log files) actions

/-- `load` returns, and if it returns `true`, the log then has this limit. -/
def LimitReaches (limit : Int) (modulePath : Bytes) (nNowDay : Nat)
    (loading : Loading) : Prop :=
  ∃ loaded config, loading = .ok (loaded, config) ∧
    (loaded = true → LimitIs limit (initLog modulePath nNowDay config))

end ServerConfig

/-- What the operations on the files all preserve. -/
structure LogOutput.Preserves {Files Outside : Type}
    (output : LogOutput Files Outside) (Property : Files → Prop) : Prop where
  openFile : ∀ outside files, Property files →
    Property (output.openFile outside files).2
  use : ∀ tmpLine files, Property files → Property (output.use tmpLine files)
  write : ∀ printed files, Property files →
    Property (output.write printed files)
  idle : ∀ outside files, Property files →
    Property (output.idle outside files)

namespace LogState

variable {Files Outside : Type} {output : LogOutput Files Outside}
variable {Property : Files → Prop} {state next : LogState Files}

theorem logThread_files (preserves : output.Preserves Property)
    {outside : Outside} (has : Property state.files)
    (stepped : state.logThread output outside = .ok next) :
    Property next.files := by
  rw [logThread] at stepped
  cases place : state.place with
  | beforeOpen =>
      simp only [place] at stepped
      split_ifs at stepped
      · cases stepped
        exact has
      · cases stepped
        exact has
      · cases stepped
        exact preserves.openFile _ _ has
      · cases stepped
        exact preserves.openFile _ _ has
  | beforeLock =>
      simp only [place] at stepped
      split at stepped
      · cases stepped
      · cases stepped
        exact has
      · cases stepped
        exact preserves.use _ _ has
  | beforeFile =>
      simp only [place] at stepped
      split_ifs at stepped
      · split at stepped
        · cases stepped
        · cases stepped
          exact preserves.write _ _ has
      · cases stepped
        exact has
  | beforeScreen =>
      simp only [place] at stepped
      cases stepped
      exact has
  | returnedFalse =>
      simp only [place] at stepped
      cases stepped
      exact preserves.idle _ _ has

/-- What the operations on the files preserve, every step preserves. -/
theorem step_files (preserves : output.Preserves Property)
    {action : LogAction Outside} (has : Property state.files)
    (stepped : state.step output action = .ok next) :
    Property next.files := by
  cases action with
  | log buf =>
      rw [step] at stepped
      split at stepped
      · cases stepped
      · cases stepped
        exact has
  | logThread outside => exact logThread_files preserves has stepped

end LogState

namespace LogFiles

/-- The limit does not change. -/
theorem logOutput_nFileSize (limit : Int) :
    logOutput.Preserves fun files => (files.nFileSize : Int) = limit where
  openFile outside files has := by
    change ((openFile outside files).2.nFileSize : Int) = limit
    rw [openFile]
    split_ifs
    · exact has
    · exact has
    · exact has
  use _ _ has := has
  write printed files has := by
    change ((write printed files).nFileSize : Int) = limit
    rw [write]
    split
    · exact has
    · split_ifs
      · exact has
      · exact has
  idle _ _ has := has

end LogFiles

namespace ServerConfig

/-- The limit is the one that the log starts with. -/
theorem limitIs_iff {limit : Int} {files : LogFiles} :
    LimitIs limit files ↔ (files.nFileSize : Int) = limit := by
  constructor
  · intro isLimit
    exact isLimit LogState.fileLog [] [] [] _ rfl rfl
  · intro same log actions first second reached _ ran
    have preserved : ∀ (state : LogState LogFiles)
        (action : LogAction LogOutside) (next : LogState LogFiles),
        (state.files.nFileSize : Int) = limit →
        state.step LogFiles.logOutput action = .ok next →
          (next.files.nFileSize : Int) = limit :=
      fun _ _ _ => LogState.step_files (LogFiles.logOutput_nFileSize limit)
    exact invariant_of_run preserved same ran

section Loading

variable {pf : UInt8} {unrepresentable : Int → Int} {ini : ParserIni}
variable {config : ServerConfig} {behind : ServerConfig → Loading}

/-- Separators are one character long, and replacing them comes to an end. -/
theorem replaceSeparator_goesOn {Property : Loading → Prop} (separator : UInt8)
    (goesOn : ∀ sLogFileName, Property (behind { config with sLogFileName })) :
    Property (replaceSeparator pf separator config behind) := by
  have agree : SearchesAgree config.sLogFileName [separator] [pf] :=
    searchesAgree_of_length_eq rfl _
  rw [replaceSeparator, replaceAllChar_of_agree (List.cons_ne_nil _ _) agree]
  exact goesOn _

/-- A value for which there is a default one. -/
theorem getBase_goesOn {Property : Loading → Prop} {α : Type}
    (found : Option α) (set : α → ServerConfig) (defaultValue : α)
    (goesOn : ∀ value, Property (behind (set value))) :
    Property (getBase found set defaultValue false behind) := by
  cases found with
  | none => exact goesOn defaultValue
  | some value => exact goesOn value

/-- `load` comes to the multiplication with this size. -/
def Scales (unrepresentable : Int → Int) (ini : ParserIni) (size : Int)
    (loading : Loading) : Prop :=
  ∃ config : ServerConfig, config.nLogFileSize = size ∧
    loading = scaleFileSize config (loadServer unrepresentable ini)

theorem loadIni_scales {size : Int}
    (accepted : ini.getInt unrepresentable (text "log") (text "filesize") =
      some size) :
    Scales unrepresentable ini size
      (loadIni pf unrepresentable ini config) := by
  rw [loadIni]
  dsimp only
  apply replaceSeparator_goesOn
  intro sLogFileName
  apply replaceSeparator_goesOn
  intro sLogFileName
  rw [accepted, getBase]
  dsimp only
  apply getBase_goesOn
  intro nLogLevel
  apply getBase_goesOn
  intro nStdOut
  exact ⟨_, rfl, rfl⟩

/-- `load` returns with this size. -/
def Returns (size : Int) (loading : Loading) : Prop :=
  ∃ loaded config, loading = .ok (loaded, config) ∧
    config.nLogFileSize = size

/-- A part of `load` behind the multiplication. -/
theorem getBase_returns {α : Type} {size : Int} {found : Option α}
    {set : α → ServerConfig} {defaultValue : α} {failreturn : Bool}
    (sets : ∀ value, (set value).nLogFileSize = size)
    (returns : ∀ config, config.nLogFileSize = size →
      Returns size (behind config)) :
    Returns size (getBase found set defaultValue failreturn behind) := by
  cases found with
  | some value => exact returns _ (sets value)
  | none =>
      cases failreturn with
      | true => exact ⟨false, set defaultValue, rfl, sets defaultValue⟩
      | false => exact returns _ (sets defaultValue)

theorem loadServer_returns {size : Int}
    (same : config.nLogFileSize = size) :
    Returns size (loadServer unrepresentable ini config) := by
  rw [loadServer]
  dsimp only
  iterate 8
    apply getBase_returns
    · intro value
      exact same
    intro config same
  exact ⟨true, config, rfl, same⟩

/-- The product has to be an `int`. -/
theorem scaleFileSize_returns {size : Int}
    (same : config.nLogFileSize = size) (positive : 0 < size) :
    (size ≤ 2047 → Returns (size * 1048576)
        (scaleFileSize config (loadServer unrepresentable ini))) ∧
      (2047 < size →
        scaleFileSize config (loadServer unrepresentable ini) =
          .error .overflow) := by
  rw [scaleFileSize, same]
  constructor
  · intro small
    rw [if_pos (by omega)]
    exact loadServer_returns rfl
  · intro large
    rw [if_neg (by omega)]

theorem load_eq {file : Bytes} {loaded : Bool} {size : Int}
    (parsed : ParserIni.load file = .ok (loaded, ini))
    (accepted : ini.getInt unrepresentable (text "log") (text "filesize") =
      some size) :
    load pf unrepresentable file config =
      loadIni pf unrepresentable ini config := by
  obtain ⟨value, found⟩ := ParserIni.getString_of_getInt accepted
  obtain ⟨middle, -, isLoaded⟩ := FaultingComputation.bind_ok parsed
  cases isLoaded
  rw [load, parsed, decide_eq_true (ParserIni.size_pos found)]

end Loading

end ServerConfig

/-- A size in megabytes, where `getInt` finds a positive one, reaches the log
unchanged if and only if it is at most 2047. -/
theorem logFileSize_reaches_iff (pf : UInt8) (unrepresentable : Int → Int)
    (file modulePath : Bytes) (nNowDay : Nat) (config : ServerConfig)
    {loaded : Bool} {ini : ParserIni} {size : Int}
    (parsed : ParserIni.load file = .ok (loaded, ini))
    (accepted : ini.getInt unrepresentable (text "log") (text "filesize") =
      some size) (positive : 0 < size) :
    ServerConfig.LimitReaches (size * 1048576) modulePath nNowDay
        (ServerConfig.load pf unrepresentable file config) ↔
      size ≤ 2047 := by
  rw [ServerConfig.load_eq parsed accepted]
  obtain ⟨scaled, same, loads⟩ := ServerConfig.loadIni_scales accepted
  rw [loads]
  obtain ⟨returns, overflows⟩ :=
    ServerConfig.scaleFileSize_returns same positive
  constructor
  · rintro ⟨loaded, config, returned, -⟩
    by_contra large
    rw [overflows (Int.not_le.mp large)] at returned
    cases returned
  · intro small
    obtain ⟨loaded, config, returned, sizeEq⟩ := returns small
    refine ⟨loaded, config, returned, fun _ => ?_⟩
    rw [ServerConfig.limitIs_iff]
    change ((config.nLogFileSize % 2 ^ 32).toNat : Int) = size * 1048576
    omega

/-- A configuration before it is loaded. -/
def unloadedConfig : ServerConfig where
  sLogFileName := []
  nLogFileSize := 0
  nLogLevel := 0
  nStdOut := false
  nServerID := 0
  nListenPort := 0
  nServerTimeOut := 0
  nServerThreads := 0
  nClientThreads := 0
  nMaxSockets := 0
  nPairDealCount := 0
  nDaemon := false

/-- A file with a size. -/
def configFile (size : String) : Bytes :=
  text ("[log]\nfilesize = " ++ size ++
    "\n[server]\nserverid = 1\nlistenport = 6000\n")

/-- The size that `getInt` finds in such a file. -/
def configFileSize (size : String) : Option Int :=
  match ParserIni.load (configFile size) with
  | .ok (_, ini) => ini.getInt id (text "log") (text "filesize")
  | .error _ => none

/-- The default size. -/
theorem logFileSize_reaches_256 :
    ServerConfig.LimitReaches (256 * 1048576) (text "/srv/") 20231015
      (ServerConfig.load 47 id (configFile "256") unloadedConfig) := by
  have found : configFileSize "256" = some 256 := by decide +kernel
  rw [configFileSize] at found
  split at found
  · next loaded ini parsed =>
      exact (logFileSize_reaches_iff 47 id (configFile "256") (text "/srv/")
        20231015 unloadedConfig parsed found (by decide)).mpr (by decide)
  · cases found

/-- Four gigabytes. -/
theorem logFileSize_reaches_4096 :
    configFileSize "4096" = some 4096 ∧
      ¬ ServerConfig.LimitReaches (4096 * 1048576) (text "/srv/") 20231015
        (ServerConfig.load 47 id (configFile "4096") unloadedConfig) := by
  refine ⟨by decide +kernel, ?_⟩
  rintro ⟨loaded, config, returned, -⟩
  have fails : (ServerConfig.load 47 id (configFile "4096")
      unloadedConfig).toOption.isNone = true := by decide +kernel
  rw [returned] at fails
  cases fails

end EchoServer
