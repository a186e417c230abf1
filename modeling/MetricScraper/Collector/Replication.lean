import MetricScraper.Collector.Composite
import MetricScraper.Metric.FieldTable
import MetricScraper.Text.CommaList

/-!
# File replication

The counters of the replication service of the distributed file system.  It has several sources,
each a counter object of its own; every source is a child, so that one that cannot be read only
fails itself.
-/

namespace MetricScraper.Replication

/-- The name of the collector. -/
def name : String := "dfsr"

/-! ### Fields -/

def counter (column metric help : String) : Field := ⟨column, .counter metric help ["name"]⟩

def gauge (column metric help : String) : Field := ⟨column, .gauge metric help ["name"]⟩

def connectionFields : List Field := [
  counter "Bandwidth Savings Using DFS Replication" "bandwidth_savings_using_dfs_replication_total"
    "Total amount of bandwidth savings using DFS Replication for this connection, in bytes",
  counter "Total Bytes Received" "bytes_received_total" "Total bytes received for connection",
  counter "Compressed Size of Files Received" "compressed_size_of_files_received_total"
    "Total compressed size of files received on the connection, in bytes",
  counter "Total Files Received" "files_received_total"
    "Total number of files received for connection",
  counter "RDC Bytes Received" "rdc_bytes_received_total"
    ("Total bytes received on the connection while replicating files using Remote " ++
      "Differential Compression"),
  counter "RDC Compressed Size of Files Received" "rdc_compressed_size_of_files_received_total"
    "Total compressed size of files received with Remote Differential Compression, in bytes",
  counter "RDC Number of Files Received" "rdc_number_of_files_received_total"
    "Total number of files received with Remote Differential Compression",
  counter "RDC Size of Files Received" "rdc_size_of_files_received_total"
    "Total uncompressed size of files received with Remote Differential Compression, in bytes",
  counter "Size of Files Received" "size_of_files_received_total"
    "Total uncompressed size of files received on the connection, in bytes"]

def folderFields : List Field := [
  counter "Bandwidth Savings Using DFS Replication" "bandwidth_savings_using_dfs_replication_total"
    "Total amount of bandwidth savings using DFS Replication for this folder, in bytes",
  counter "Compressed Size of Files Received" "compressed_size_of_files_received_total"
    "Total compressed size of files received on the folder, in bytes",
  counter "Conflict Bytes Cleaned Up" "conflict_bytes_cleaned_up_total"
    ("Total size of conflict loser files and folders deleted from the Conflict and Deleted " ++
      "folder, in bytes"),
  counter "Conflict Bytes Generated" "conflict_bytes_generated_total"
    ("Total size of conflict loser files and folders moved to the Conflict and Deleted " ++
      "folder, in bytes"),
  counter "Conflict Files Cleaned Up" "conflict_files_cleaned_up_total"
    "Number of conflict loser files deleted from the Conflict and Deleted folder",
  counter "Conflict Files Generated" "conflict_files_generated_total"
    "Number of files and folders moved to the Conflict and Deleted folder",
  counter "Conflict Folder Cleanups Completed" "conflict_folder_cleanups_total"
    "Number of deletions of conflict loser files and folders in the Conflict and Deleted folder",
  gauge "Conflict Space In Use" "conflict_space_in_use"
    ("Total size of the conflict loser files and folders currently in the Conflict and " ++
      "Deleted folder"),
  gauge "Deleted Space In Use" "deleted_space_in_use"
    ("Total size (in bytes) of the deleted files and folders currently in the Conflict and " ++
      "Deleted folder"),
  counter "Deleted Bytes Cleaned Up" "deleted_bytes_cleaned_up_total"
    ("Total size (in bytes) of replicating deleted files and folders that were cleaned up " ++
      "from the Conflict and Deleted folder"),
  counter "Deleted Bytes Generated" "deleted_bytes_generated_total"
    ("Total size (in bytes) of replicated deleted files and folders that were moved to the " ++
      "Conflict and Deleted folder after they were deleted from a replicated folder on a " ++
      "sending member"),
  counter "Deleted Files Cleaned Up" "deleted_files_cleaned_up_total"
    "Number of files and folders that were cleaned up from the Conflict and Deleted folder",
  counter "Deleted Files Generated" "deleted_files_generated_total"
    "Number of deleted files and folders that were moved to the Conflict and Deleted folder",
  counter "File Installs Retried" "file_installs_retried_total"
    ("Total number of file installs that are being retried due to sharing violations or " ++
      "other errors encountered when installing the files"),
  counter "File Installs Succeeded" "file_installs_succeeded_total"
    ("Total number of files that were successfully received from sending members and " ++
      "installed locally on this server"),
  counter "Total Files Received" "files_received_total" "Total number of files received",
  counter "RDC Bytes Received" "rdc_bytes_received_total"
    "Total number of bytes received in replicating files using Remote Differential Compression",
  counter "RDC Compressed Size of Files Received" "rdc_compressed_size_of_files_received_total"
    "Total compressed size (in bytes) of the files received with Remote Differential Compression",
  counter "RDC Number of Files Received" "rdc_number_of_files_received_total"
    "Total number of files received with Remote Differential Compression",
  counter "RDC Size of Files Received" "rdc_size_of_files_received_total"
    ("Total uncompressed size (in bytes) of the files received with Remote Differential " ++
      "Compression"),
  counter "Size of Files Received" "size_of_files_received_total"
    "Total uncompressed size (in bytes) of the files received",
  gauge "Staging Space In Use" "staging_space_in_use"
    "Total size of files and folders currently in the staging folder.",
  counter "Staging Bytes Cleaned Up" "staging_bytes_cleaned_up_total"
    ("Total size (in bytes) of the files and folders that have been cleaned up from the " ++
      "staging folder"),
  counter "Staging Bytes Generated" "staging_bytes_generated_total"
    ("Total size (in bytes) of replicated files and folders in the staging folder created " ++
      "by the DFS Replication service since last restart"),
  counter "Staging Files Cleaned Up" "staging_files_cleaned_up_total"
    "Total number of files and folders that have been cleaned up from the staging folder",
  counter "Staging Files Generated" "staging_files_generated_total"
    ("Total number of times replicated files and folders have been staged by the DFS " ++
      "Replication service"),
  counter "Updates Dropped" "updates_dropped_total"
    ("Total number of redundant file replication update records that have been ignored by " ++
      "the DFS Replication service because they did not change the replicated file or folder")]

def volumeFields : List Field := [
  counter "Database Lookups" "database_lookups_total"
    "Total number of database lookups performed by the DFS Replication service",
  counter "Database Commits" "database_commits_total"
    "Total number of database commits performed by the DFS Replication service",
  gauge "USN Journal Records Unread Percentage" "usn_journal_unread_percentage"
    "Percentage of USN journal records that are unread",
  counter "USN Journal Records Accepted" "usn_journal_records_accepted_total"
    "Total number of USN journal records accepted",
  counter "USN Journal Records Read" "usn_journal_records_read_total"
    "Total number of USN journal records read"]

/-! ### Sources -/

inductive Source where
  | connection
  | folder
  | volume
  deriving DecidableEq, Repr, Inhabited

namespace Source

def name : Source → String
  | .connection => "connection"
  | .folder => "folder"
  | .volume => "volume"

/-- The counter object that the source reads. -/
def object : Source → String
  | .connection => "DFS Replication Connections"
  | .folder => "DFS Replicated Folders"
  | .volume => "DFS Replication Service Volumes"

def fields : Source → List Field
  | .connection => connectionFields
  | .folder => folderFields
  | .volume => volumeFields

def ofName? (name : String) : Option Source :=
  [connection, folder, volume].find? fun s => s.name == name

/-- The fields of the source under full metric names. -/
def table (space : String) (s : Source) : FieldTable :=
  .ofFields space (Replication.name ++ "_" ++ s.name) s.fields

/-- The child that reads the source. -/
def child (space : String) (s : Source) : Child :=
  ⟨s.name, .table s.object fun t => Work.emit ((s.table space).collectTable t)⟩

end Source

/-- Adds a source to those before it, unless it is one of them. -/
def addSource (sources : List Source) (s : Source) : List Source :=
  if sources.contains s then sources else sources ++ [s]

/-- The sources of names, each once, in order of first mention; or the first name of no source. -/
def sourcesFrom (sources : List Source) : List String → Except String (List Source)
  | [] => .ok sources
  | n :: rest =>
    match Source.ofName? n with
    | some s => sourcesFrom (addSource sources s) rest
    | none => .error n

/-- The sources of a comma separated list. -/
def sourcesOfList (list : String) : Except String (List Source) :=
  sourcesFrom [] (Text.parseCommaList list)

/-- The composite that reads the sources. -/
def composite (space : String) (sources : List Source) : Composite :=
  .ofChildren space name (sources.map (Source.child space))

end MetricScraper.Replication
