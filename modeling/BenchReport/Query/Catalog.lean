import BenchReport.Query.Request
import BenchReport.Query.Resource

/-! The sets of measurements that benchmark scenarios use. -/
namespace BenchReport.Query.Catalog

/-- Percentiles reported for request durations. -/
def percentiles : List Nat := [50, 99]

/-- Rate, mean duration and the reported percentiles of one kind of request. -/
def requestFamily (name job method route : String) (window : Window) (label : String) :
    List Measurement :=
  requestRate name job route Status.success window label ::
  requestDurationAverage name job method route Status.success window label ::
  percentiles.map fun p =>
    requestDurationQuantile name job method route Status.success p window label

/-- Requests that bring data in. -/
def writePath (window : Window) : List Measurement :=
  requestFamily "Distributor HTTP push" "distributor" Method.post Route.httpPush window
    Component.distributor ++
  requestFamily "Ingester gRPC push" "ingester" Method.grpc Route.grpcPush window
    Component.ingester

/-- Requests that ask for data. -/
def readPath (window : Window) : List Measurement :=
  requestFamily "Query frontend HTTP read path" "query-frontend" Method.get Route.httpReadPath
    window Component.queryFrontend ++
  requestFamily "Querier HTTP read path" "querier" Method.get Route.httpReadPath window
    Component.querier ++
  requestFamily "Ingester gRPC read path" "ingester" Method.grpc Route.grpcReadPath window
    Component.ingester

def index (window : Window) : List Measurement :=
  [indexRequestRate Index.writeName "ingester" .write Status.success window,
    indexRequestRate Index.readName "ingester" .read Status.success window]

def resources (job : String) (window : Window) (label : String) : List Measurement :=
  [containerCpu job window label, containerWorkingSet job window label,
    containerHeap job label, volumeUsed job window label]

def allResources (window : Window) : List Measurement :=
  Component.all.flatMap fun (job, label) => resources job window label

def all (window : Window) : List Measurement :=
  writePath window ++ readPath window ++ index window ++ allResources window

end BenchReport.Query.Catalog
