import BoundSql.Connection.Engine
import BoundSql.Proofs.Outcome
import BoundSql.Proofs.Text.Folding
import Mathlib.Data.List.Basic

/-!
# Connecting by settings and by address

An address is given a driver in its scheme.  What stands behind the first colon stays, a
driver that is there stays too, and the dialect of the address is the same as before: the
table of drivers and the table of dialects agree on every scheme that has a driver.

So it makes no difference that settings give their address a driver before they connect,
and that they may look for a dialect in the address as it was.  Connecting by settings and
connecting by their address either both fail with an error of configuration, or set up the
same engine for the same database.
-/

namespace BoundSql

/-! ## Addresses -/

/-- The dialect that a scheme in small letters stands for. -/
def Dialect.ofScheme? (scheme : List Char) : Option Dialect :=
  (schemes.find? fun (beginning, _) => beginning.toList.isPrefixOf scheme).map Prod.snd

/-- An address that stands for no dialect is an error of configuration. -/
theorem Dialect.ofUrl_eq_error
    {url : String}
    {error : Error}
    (unknown : ofUrl url = .error error) :
    ∃ fault, error = .configuration fault := by
  unfold ofUrl at unknown
  dsimp only at unknown
  split at unknown
  · cases unknown
  · cases unknown
    exact ⟨_, rfl⟩

namespace Connection

variable {url address : String} {scheme rest : List Char}

/-- Whether an address is a scheme and a rest with its first colon between them. -/
structure Splits (url : String) (scheme rest : List Char) : Prop where
  toList_eq : url.toList = scheme ++ ':' :: rest
  noColon : ':' ∉ scheme

theorem exists_splits (colon : ':' ∈ url.toList) : ∃ scheme rest, Splits url scheme rest := by
  obtain ⟨scheme, rest, toList_eq, noColon⟩ := List.eq_append_cons_of_mem colon
  exact ⟨scheme, rest, toList_eq, noColon⟩

namespace Splits

theorem span_eq (splits : Splits url scheme rest) :
    url.toList.span (· != ':') = (scheme, ':' :: rest) := by
  rw [splits.toList_eq, Text.span_ne_append splits.noColon]

theorem takeWhile_eq (splits : Splits url scheme rest) :
    url.toList.takeWhile (· != ':') = scheme := by
  have first := congrArg Prod.fst splits.span_eq
  rwa [List.span_eq_takeWhile_dropWhile] at first

/-- The dialect of an address is that of its scheme. -/
theorem ofUrl_eq_ok
    {dialect : Dialect}
    (splits : Splits url scheme rest)
    (known : Dialect.ofScheme? (Text.lower scheme) = some dialect) :
    Dialect.ofUrl url = .ok dialect := by
  obtain ⟨entry, found, rfl⟩ := Option.map_eq_some_iff.mp known
  rw [Dialect.ofUrl, splits.takeWhile_eq]
  dsimp only
  rw [found]

/-- An address that names a driver is left as it is. -/
theorem driverUrl_of_plus (splits : Splits url scheme rest) (plus : '+' ∈ scheme) :
    driverUrl url = .ok url := by
  have contained : scheme.contains '+' = true := List.contains_iff_mem.mpr plus
  simp only [driverUrl, splits.span_eq, contained, if_true]

/-- So is an address whose engine is not known. -/
theorem driverUrl_of_unknown
    (splits : Splits url scheme rest)
    (unknown : driverFor? scheme = none) :
    driverUrl url = .ok url := by
  simp only [driverUrl, splits.span_eq, unknown, ite_self]

/-- An address whose engine is known is given the driver for it. -/
theorem driverUrl_of_known
    {driver : String}
    (splits : Splits url scheme rest)
    (noPlus : '+' ∉ scheme)
    (known : driverFor? scheme = some driver) :
    driverUrl url = .ok (driver ++ ":" ++ String.ofList rest) := by
  have notContained : scheme.contains '+' = false := by
    rw [← Bool.not_eq_true, List.contains_iff_mem]
    exact noPlus
  simp only [driverUrl, splits.span_eq, notContained, known, Bool.false_eq_true, if_false]

end Splits

/-- An address without a colon is not given a driver. -/
theorem driverUrl_of_no_colon (noColon : ':' ∉ url.toList) :
    driverUrl url = .error (.configuration (.missingScheme url)) := by
  simp only [driverUrl, Text.span_ne_of_not_mem noColon]

/-- Whether a scheme with a driver stands for the same dialect as the scheme without it. -/
structure KeepsDialect (scheme driver : String) : Prop where
  plus : '+' ∈ driver.toList
  noColon : ':' ∉ driver.toList
  agrees : ∃ dialect, Dialect.ofScheme? scheme.toList = some dialect ∧
    Dialect.ofScheme? (Text.lower driver.toList) = some dialect

theorem keepsDialect_of_drivers : ∀ entry ∈ drivers, KeepsDialect entry.1 entry.2 := by
  have spelled : ∀ entry ∈ drivers, '+' ∈ entry.2.toList ∧ ':' ∉ entry.2.toList ∧
      entry.2.toList.all (fun c => decide (Text.IsAscii c)) = true ∧
      entry.2.toList.map Char.toLower = entry.2.toList := by
    decide
  have agree : ∀ entry ∈ drivers,
      Dialect.ofScheme? entry.2.toList = Dialect.ofScheme? entry.1.toList ∧
        (Dialect.ofScheme? entry.1.toList).isSome := by
    decide +kernel
  intro entry member
  obtain ⟨plus, noColon, allAscii, small⟩ := spelled entry member
  have ascii : ∀ c ∈ entry.2.toList, Text.IsAscii c := fun c isPart =>
    of_decide_eq_true (List.all_eq_true.mp allAscii c isPart)
  obtain ⟨same, known⟩ := agree entry member
  obtain ⟨dialect, stands⟩ := Option.isSome_iff_exists.mp known
  refine ⟨plus, noColon, dialect, stands, ?_⟩
  rw [Text.lower_of_isAscii ascii, small, same, stands]

/-- A driver that is found for a scheme stands for the dialect of the scheme. -/
theorem keepsDialect_of_driverFor?
    {driver : String}
    (known : driverFor? scheme = some driver) :
    KeepsDialect (String.ofList (Text.lower scheme)) driver := by
  exact keepsDialect_of_drivers (_, driver) (Entries.mem_of_lookup known)

/-- Whether an address is another one that has been given a driver: a further driver is not given to
it, what stands behind the first colon is kept, and so is the dialect or that there is none. -/
structure Drives (url address : String) : Prop where
  again : driverUrl address = .ok address
  keepsRest : ∃ scheme newScheme rest, Splits url scheme rest ∧ Splits address newScheme rest
  sameDialect : Dialect.ofUrl address = Dialect.ofUrl url

/-- Every address with a colon can be given a driver. -/
theorem exists_drives (colon : ':' ∈ url.toList) :
    ∃ address, driverUrl url = .ok address ∧ Drives url address := by
  obtain ⟨scheme, rest, splits⟩ := exists_splits colon
  have unchanged : driverUrl url = .ok url → Drives url url := fun same =>
    ⟨same, ⟨scheme, scheme, rest, splits, splits⟩, rfl⟩
  by_cases plus : '+' ∈ scheme
  · have same := splits.driverUrl_of_plus plus
    exact ⟨url, same, unchanged same⟩
  · cases known : driverFor? scheme with
    | none =>
        have same := splits.driverUrl_of_unknown known
        exact ⟨url, same, unchanged same⟩
    | some driver =>
        have keeps := keepsDialect_of_driverFor? known
        have splitsDriven : Splits (driver ++ ":" ++ String.ofList rest) driver.toList rest :=
          ⟨by simp, keeps.noColon⟩
        refine ⟨_, splits.driverUrl_of_known plus known, splitsDriven.driverUrl_of_plus keeps.plus,
          ⟨scheme, driver.toList, rest, splits, splitsDriven⟩, ?_⟩
        obtain ⟨dialect, stands, standsDriven⟩ := keeps.agrees
        rw [String.toList_ofList] at stands
        rw [splitsDriven.ofUrl_eq_ok standsDriven, splits.ofUrl_eq_ok stands]

theorem colon_of_driverUrl (given : driverUrl url = .ok address) : ':' ∈ url.toList := by
  by_contra noColon
  cases (driverUrl_of_no_colon noColon).symm.trans given

/-- An address that is given a driver keeps the rest, and keeps its dialect. -/
theorem drives_of_driverUrl (given : driverUrl url = .ok address) : Drives url address := by
  obtain ⟨driven, gives, drives⟩ := exists_drives (colon_of_driverUrl given)
  cases gives.symm.trans given
  exact drives

end Connection

/-! ## Settings -/

/-- Whether a value in settings gives a dialect, or says that there is none: by its name, as a
member of the enumeration of dialects, or by nothing. -/
inductive Dialect.GivenBy : Option Dialect → Value → Prop
  | absent : GivenBy none .null
  | named (dialect : Dialect) : GivenBy (some dialect) (.text dialect.name)
  | member (dialect : Dialect) :
      GivenBy (some dialect)
        (.member Settings.dialectType.enumeration dialect.name (.text dialect.name))

namespace Settings

/-- The values of settings that are all given directly. -/
def given (url : String) (echo : Bool) (poolSize : Int) (dialect : Value) : Row :=
  [("url", .text url), ("echo", .bool echo), ("pool_size", .int poolSize), ("dialect", dialect)]

/-- Settings that are all given directly are read as given, whatever the environment says. -/
theorem read_given
    {dialect : Option Dialect}
    {value : Value}
    (givenBy : Dialect.GivenBy dialect value)
    (environment : List (String × String))
    (url : String)
    (echo : Bool)
    (poolSize : Int) :
    read environment (given url echo poolSize value) = .ok ⟨some url, echo, poolSize, dialect⟩ := by
  cases givenBy with
  | absent => rfl
  | named dialect => cases dialect <;> rfl
  | member dialect => cases dialect <;> rfl

end Settings

/-! ## Engines -/

namespace Connected

variable {url address : String} {echo : Bool} {poolSize : Int} {dialect : Option Dialect}
  {urlDialect : Dialect} {registry : Registry}

/-- What an address of a dialect is connected to with its driver.  The engine is given the size of
its pool unless engines of that dialect choose it themselves, whichever dialect the database has. -/
def driven
    (urlDialect : Dialect)
    (address : String)
    (echo : Bool)
    (poolSize : Int)
    (dialect : Option Dialect)
    (registry : Registry) : Connected :=
  ⟨⟨.engine, dialect.getD urlDialect, registry⟩,
    ⟨address, echo, if urlDialect = .sqlite then none else some poolSize⟩⟩

/-- An address with a dialect and a driver is connected. -/
theorem ofUrl_eq_driven
    (ofDialect : Dialect.ofUrl url = .ok urlDialect)
    (driver : Connection.driverUrl url = .ok address) :
    ofUrl url echo poolSize dialect registry =
      ⟨[.connected (dialect.getD urlDialect)],
        .ok (driven urlDialect address echo poolSize dialect registry)⟩ := by
  rw [ofUrl, ofDialect, driver]
  cases urlDialect <;> rfl

/-- An address without a dialect is not connected. -/
theorem ofUrl_of_unknown {error : Error} (unknown : Dialect.ofUrl url = .error error) :
    ofUrl url echo poolSize dialect registry = Traced.fail error := by
  rw [ofUrl, unknown]
  rfl

/-- Nor is one without a colon. -/
theorem ofUrl_of_no_colon (noColon : ':' ∉ url.toList) :
    ∃ fault, ofUrl url echo poolSize dialect registry = Traced.fail (.configuration fault) := by
  cases ofDialect : Dialect.ofUrl url with
  | error error =>
      obtain ⟨fault, rfl⟩ := Dialect.ofUrl_eq_error ofDialect
      exact ⟨fault, ofUrl_of_unknown ofDialect⟩
  | ok urlDialect =>
      refine ⟨.missingScheme url, ?_⟩
      rw [ofUrl, ofDialect, Connection.driverUrl_of_no_colon noColon]
      rfl

/-- Settings without an address or a driver for it are not connected. -/
theorem ofSettings_of_undriven
    {settings : Settings}
    {error : Error}
    (undriven : settings.driverUrl = .error error) :
    ofSettings settings registry = Traced.fail error := by
  rw [ofSettings, undriven]
  rfl

/-- Other settings are connected by the address with its driver and by their dialect, if there is
one. -/
theorem ofSettings_of_driven
    {settings : Settings}
    (driver : settings.driverUrl = .ok address) :
    ofSettings settings registry =
      Traced.ofExcept settings.resolvedDialect >>= fun resolved =>
        ofUrl address settings.echo settings.poolSize (some resolved) registry := by
  rw [ofSettings, driver]
  rfl

/-- The two ways in which attempts to connect end alike: both fail with an error of configuration
and report nothing, or both connect to the same and report the same. -/
inductive SameOutcome (first second : Traced LogEntry Connected) : Prop
  | refused (fault other : ConfigurationFault) :
      first = Traced.fail (.configuration fault) →
      second = Traced.fail (.configuration other) →
      SameOutcome first second
  | connected (connected : Connected) (entries : List LogEntry) :
      first = ⟨entries, .ok connected⟩ →
      second = ⟨entries, .ok connected⟩ →
      SameOutcome first second

/-- Settings connect as their address does. -/
theorem sameOutcome_of_settings
    (settings : Settings)
    (hasUrl : settings.url = some url)
    (registry : Registry) :
    SameOutcome (ofSettings settings registry)
      (ofUrl url settings.echo settings.poolSize settings.dialect registry) := by
  have givenUrl_eq : settings.givenUrl =
      if url == "" then .error (.configuration .urlNotSet) else .ok url := by
    rw [Settings.givenUrl, hasUrl]
  by_cases colon : ':' ∈ url.toList
  · have nonempty : (url == "") = false := by
      rw [beq_eq_false_iff_ne]
      rintro rfl
      exact absurd colon List.not_mem_nil
    rw [nonempty, if_neg Bool.false_ne_true] at givenUrl_eq
    obtain ⟨address, driver, drives⟩ := Connection.exists_drives colon
    have ofDriven : ofSettings settings registry =
        Traced.ofExcept settings.resolvedDialect >>= fun resolved =>
          ofUrl address settings.echo settings.poolSize (some resolved) registry := by
      refine ofSettings_of_driven ?_
      rw [Settings.driverUrl, givenUrl_eq]
      exact driver
    have resolves : settings.resolvedDialect =
        (settings.dialect.map Except.ok).getD (Dialect.ofUrl url) := by
      rw [Settings.resolvedDialect, givenUrl_eq]
      cases settings.dialect <;> rfl
    rw [ofDriven, resolves]
    cases ofDialect : Dialect.ofUrl url with
    | error error =>
        obtain ⟨fault, rfl⟩ := Dialect.ofUrl_eq_error ofDialect
        refine .refused fault fault ?_ (ofUrl_of_unknown ofDialect)
        -- A chosen dialect only puts the failure off until the address is connected to.
        cases settings.dialect with
        | none => rfl
        | some chosen => exact ofUrl_of_unknown (drives.sameDialect.trans ofDialect)
    | ok urlDialect =>
        refine .connected _ _ ?_ (ofUrl_eq_driven ofDialect driver)
        have connects : ∀ chosen,
            ofUrl address settings.echo settings.poolSize (some chosen) registry =
              ⟨[.connected chosen],
                .ok (driven urlDialect address settings.echo settings.poolSize (some chosen)
                  registry)⟩ :=
          fun chosen => ofUrl_eq_driven (drives.sameDialect.trans ofDialect) drives.again
        cases settings.dialect with
        | none => exact connects urlDialect
        | some chosen => exact connects chosen
  · obtain ⟨other, refused⟩ : ∃ other,
        ofUrl url settings.echo settings.poolSize settings.dialect registry =
          Traced.fail (.configuration other) :=
      ofUrl_of_no_colon colon
    have undriven : ∃ fault, settings.driverUrl = .error (.configuration fault) := by
      rw [Settings.driverUrl, givenUrl_eq]
      split
      · exact ⟨_, rfl⟩
      · exact ⟨_, Connection.driverUrl_of_no_colon colon⟩
    obtain ⟨fault, undriven⟩ := undriven
    exact .refused fault other (ofSettings_of_undriven undriven) refused

/-- Settings that are all given directly connect as their address does with the same options.  An
address is connected exactly when it has a dialect and can be given a driver, which it can when it
has a colon.  To give it one is to keep its rest and its dialect, and to do so once is enough. -/
theorem ofSettings_agrees
    {dialect : Option Dialect}
    {value : Value}
    (givenBy : Dialect.GivenBy dialect value)
    (url : String)
    (echo : Bool)
    (poolSize : Int)
    (environment : List (String × String))
    (registry : Registry) :
    (∃ settings,
      Settings.read environment (Settings.given url echo poolSize value) = .ok settings ∧
        SameOutcome (ofSettings settings registry) (ofUrl url echo poolSize dialect registry)) ∧
    (∀ connected, (ofUrl url echo poolSize dialect registry).result = .ok connected ↔
      ∃ urlDialect address, Dialect.ofUrl url = .ok urlDialect ∧
        Connection.driverUrl url = .ok address ∧
        connected = driven urlDialect address echo poolSize dialect registry) ∧
    ((∃ address, Connection.driverUrl url = .ok address) ↔ ':' ∈ url.toList) ∧
    ∀ address, Connection.driverUrl url = .ok address → Connection.Drives url address := by
  refine ⟨⟨_, Settings.read_given givenBy environment url echo poolSize,
    sameOutcome_of_settings _ rfl registry⟩, fun connected => ⟨fun connects => ?_, ?_⟩,
    ⟨?_, ?_⟩, fun address => Connection.drives_of_driverUrl⟩
  · cases ofDialect : Dialect.ofUrl url with
    | error error =>
        rw [ofUrl_of_unknown ofDialect] at connects
        cases connects
    | ok urlDialect =>
        by_cases colon : ':' ∈ url.toList
        · obtain ⟨address, driver, _⟩ := Connection.exists_drives colon
          rw [ofUrl_eq_driven ofDialect driver] at connects
          exact ⟨urlDialect, address, rfl, driver, (Except.ok.inj connects).symm⟩
        · obtain ⟨fault, refused⟩ : ∃ fault, ofUrl url echo poolSize dialect registry =
              Traced.fail (.configuration fault) :=
            ofUrl_of_no_colon colon
          rw [refused] at connects
          cases connects
  · rintro ⟨urlDialect, address, ofDialect, driver, rfl⟩
    rw [ofUrl_eq_driven ofDialect driver]
  · rintro ⟨address, driver⟩
    exact Connection.colon_of_driverUrl driver
  · intro colon
    obtain ⟨address, driver, _⟩ := Connection.exists_drives colon
    exact ⟨address, driver⟩

/-- An address in capital letters with a chosen dialect that is not its own. -/
theorem ofSettings_agrees_capitals :
    Dialect.GivenBy (some .sqlite) (.text "sqlite") ∧
      (∃ settings,
        Settings.read [("DATABASE_DIALECT", "mysql")]
            (Settings.given "POSTGRES://u@h:5432/app" true 12 (.text "sqlite")) = .ok settings ∧
          SameOutcome (ofSettings settings .empty)
            (ofUrl "POSTGRES://u@h:5432/app" true 12 (some .sqlite) .empty)) ∧
      (ofUrl "POSTGRES://u@h:5432/app" true 12 (some .sqlite) .empty).result =
        .ok ⟨⟨.engine, .sqlite, .empty⟩, ⟨"postgresql+asyncpg://u@h:5432/app", true, some 12⟩⟩ ∧
      Connection.Drives "POSTGRES://u@h:5432/app" "postgresql+asyncpg://u@h:5432/app" := by
  have givenBy : Dialect.GivenBy (some .sqlite) (.text "sqlite") := .named .sqlite
  obtain ⟨same, connects, _, drives⟩ := ofSettings_agrees givenBy "POSTGRES://u@h:5432/app" true 12
    [("DATABASE_DIALECT", "mysql")] .empty
  have ofDialect : Dialect.ofUrl "POSTGRES://u@h:5432/app" = .ok .postgres := rfl
  have driver : Connection.driverUrl "POSTGRES://u@h:5432/app" =
      .ok "postgresql+asyncpg://u@h:5432/app" := rfl
  exact ⟨givenBy, same, (connects _).mpr ⟨_, _, ofDialect, driver, rfl⟩, drives _ driver⟩

end Connected
end BoundSql
