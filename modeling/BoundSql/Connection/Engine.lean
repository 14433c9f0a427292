import BoundSql.Connection.Settings
import BoundSql.Session.Database

/-!
# Engines

How an engine is set up for an address: with a driver in the address, and with a
pool of a given size unless the address is one of an engine that pools by itself.
The dialect of the database is the one of the address unless another is given.
-/

namespace BoundSql

/-- How an engine is set up. -/
structure EngineSetup where
  url : String
  echo : Bool
  /-- The size of the pool, for engines that do not choose it. -/
  poolSize : Option Int
  deriving DecidableEq, Repr

/-- A database with the setup of its engine. -/
structure Connected where
  database : Database
  setup : EngineSetup

namespace Connected

/-- Connect to an address. -/
def ofUrl
    (url : String)
    (echo : Bool)
    (poolSize : Int)
    (dialect : Option Dialect)
    (registry : Registry) : Traced LogEntry Connected := do
  let urlDialect ← Traced.ofExcept (Dialect.ofUrl url)
  let dialect := dialect.getD urlDialect
  let address ← Traced.ofExcept (Connection.driverUrl url)
  Traced.note (.connected dialect)
  let poolSize := if urlDialect == .sqlite then none else some poolSize
  pure ⟨⟨.engine, dialect, registry⟩, ⟨address, echo, poolSize⟩⟩

/-- Connect as settings say. -/
def ofSettings (settings : Settings) (registry : Registry) : Traced LogEntry Connected := do
  let url ← Traced.ofExcept settings.driverUrl
  let dialect ← Traced.ofExcept settings.resolvedDialect
  ofUrl url settings.echo settings.poolSize (some dialect) registry

/-- The size of the pool when nothing is said about it. -/
def ordinaryPoolSize : Int := 5

end Connected
end BoundSql
