/-! The fixed words of queries: methods, routes, status patterns, units, factors and components. -/
namespace BenchReport.Query

namespace Method

def get : String := "GET"

def post : String := "POST"

def grpc : String := "gRPC"

end Method

namespace Route

def httpPush : String := "loki_api_v1_push"

def httpQueryRange : String := "loki_api_v1_query_range"

def httpReadPath : String :=
  "loki_api_v1_series|api_prom_series|api_prom_query|api_prom_label|api_prom_label_name_values|" ++
  "loki_api_v1_query|loki_api_v1_query_range|loki_api_v1_labels|loki_api_v1_label_name_values"

def grpcPush : String := "/logproto.Pusher/Push"

def grpcQuerySample : String := "/logproto.Querier/QuerySample"

def grpcReadPath : String :=
  "/logproto.Querier/Query|/logproto.Querier/QuerySample|/logproto.Querier/Label|" ++
  "/logproto.Querier/Series|/logproto.Querier/GetChunkIDs"

end Route

namespace Status

def success : String := "2.*"

def any : String := ".*"

end Status

namespace UnitName

def requestsPerSecond : String := "Requests per Second"

def milliseconds : String := "Milliseconds"

def millicores : String := "Millicores"

def gigabytes : String := "Gigabytes"

end UnitName

namespace Factor

def secondsToMilliseconds : Nat := 1000

def coresToMillicores : Nat := 1000

def bytesToGigabytes : Nat := 1000000000

end Factor

namespace Index

def readName : String := "Index successful reads"

def writeName : String := "Index successful writes"

def chunkOperation : String := "index_chunk"

end Index

/-- Whether an index request writes. -/
inductive Operation
  | write | read
  deriving DecidableEq

/-- A rate of requests is never taken as less than this. -/
def minRequestCount : String := "0.01"

namespace Component

def distributor : String := "distributor"

def ingester : String := "ingester"

def querier : String := "querier"

def queryFrontend : String := "query-frontend"

def compactor : String := "compactor"

def indexGateway : String := "index-gateway"

/-- The jobs measured, each with its label. -/
def all : List (String × String) :=
  [(distributor, distributor), (ingester, ingester), (querier, querier),
    (queryFrontend, queryFrontend), (compactor, compactor), (indexGateway, indexGateway)]

end Component

end BenchReport.Query
