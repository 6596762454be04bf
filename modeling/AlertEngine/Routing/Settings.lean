/-! # Where engines are found

Engines are found on consecutive ports of one host, or behind a service of a cluster.
-/

namespace AlertEngine

/-- Engines on one host; engine `i` listens on port `startingPort + i`. -/
structure PortStrategy where
  partitions : UInt64 := 1
  startingPort : UInt16 := 9192
  host : String := "localhost"
  deriving DecidableEq

/-- Engines behind a service; times are in seconds. -/
structure ServiceStrategy where
  apiUrl : String := "https://kubernetes"
  serviceName : String := "kapacitor"
  namespaceName : String := "default"
  readTimeout : UInt64 := 20
  pollInterval : UInt64 := 10
  /-- How long to wait before a failed watch starts again. -/
  restartDelay : UInt64 := 5
  bearerToken : Option String := none
  deriving DecidableEq

structure DiscoverySettings where
  hashSeed : UInt32 := 0
  ports : Option PortStrategy := none
  service : Option ServiceStrategy := none
  deriving DecidableEq

/-- The address of the endpoints of the service, without slashes where the address of the
    cluster ends. -/
def ServiceStrategy.endpointsUrl (s : ServiceStrategy) : String :=
  let base := String.ofList (s.apiUrl.toList.reverse.dropWhile (· = '/')).reverse
  base ++ "/api/v1/namespaces/" ++ s.namespaceName ++ "/endpoints/" ++ s.serviceName

end AlertEngine
