import BenchReport.Measurement
import BenchReport.Window
import BenchReport.Query.Template
import BenchReport.Query.Vocabulary

/-! Measurements of containers and volumes. -/
namespace BenchReport.Query

/-- Processor time of containers, scaled. -/
def containerCpuTemplate : Template where
  text := "sum(avg_over_time(pod:container_cpu_usage:sum\x7bpod=~\".*${job}.*\"\x7d[${window}])) * "
    ++ "${multiplier}"

/-- Memory in use by containers, scaled. -/
def workingSetTemplate : Template where
  text := "sum(avg_over_time(container_memory_working_set_bytes\x7bpod=~\".*${job}.*\", "
    ++ "container=\"\"\x7d[${window}]) / ${divisor})"

/-- Heap in use at this instant, scaled. -/
def heapTemplate : Template where
  text := "sum(go_memstats_heap_inuse_bytes\x7bpod=~\".*${job}.*\"\x7d) / ${divisor}"

/-- Bytes used on volumes, scaled. -/
def volumeTemplate : Template where
  text := "sum(avg_over_time(kubelet_volume_stats_used_bytes\x7b"
    ++ "persistentvolumeclaim=~\".*${job}.*\"\x7d[${window}]) / ${divisor})"

/-- Processor use in millicores. -/
def containerCpu (job : String) (window : Window) (label : String) : Measurement where
  name := "Sum of Container CPU Usage"
  query := containerCpuTemplate.render
    [("job", job), ("window", window.text), ("multiplier", toString Factor.coresToMillicores)]
  unit := UnitName.millicores
  label := label

/-- Working set memory in gigabytes. -/
def containerWorkingSet (job : String) (window : Window) (label : String) : Measurement where
  name := "Sum of Container WorkingSet Memory"
  query := workingSetTemplate.render
    [("job", job), ("window", window.text), ("divisor", toString Factor.bytesToGigabytes)]
  unit := UnitName.gigabytes
  label := label

/-- Heap in gigabytes; an instant query, so it takes no window. -/
def containerHeap (job label : String) : Measurement where
  name := "Sum of Container Go Memstats Heap Inuse"
  query := heapTemplate.render
    [("job", job), ("divisor", toString Factor.bytesToGigabytes)]
  unit := UnitName.gigabytes
  label := label

/-- Volume use in gigabytes. -/
def volumeUsed (job : String) (window : Window) (label : String) : Measurement where
  name := "Sum of Persistent Volume Used Bytes"
  query := volumeTemplate.render
    [("job", job), ("window", window.text), ("divisor", toString Factor.bytesToGigabytes)]
  unit := UnitName.gigabytes
  label := label

end BenchReport.Query
