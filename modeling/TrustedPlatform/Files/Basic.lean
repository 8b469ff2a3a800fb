import TrustedPlatform.Bytes
import TrustedPlatform.Files.Place

/-!
# Files

What is found at the places of the tree: directories, files with contents, sockets, and the special
files that every machine has.

* `node?_put`: a file that is put somewhere is found there, and nothing else changes.
-/

set_option autoImplicit false

namespace TrustedPlatform

inductive SpecialFile where
  | null
  | zero
  | full
  -- Takes what is printed, and brings nothing.
  | output
  -- Cannot be opened, for there is no terminal.
  | terminal
  deriving DecidableEq, Repr

inductive Node where
  | directory
  | file (contents : Bytes)
  | socket
  | special (kind : SpecialFile)
  deriving DecidableEq, Repr

structure Files where
  nodes : List (Place × Node)
  workplace : Place
  deriving DecidableEq, Repr

namespace Files

/-- The special files that every machine has.  What the random ones bring cannot be told, and nobody
gives the tool anything to read or sees its warnings. -/
def specialNodes : List (Place × Node) :=
  [("/dev/null", .null), ("/dev/zero", .zero), ("/dev/full", .full), ("/dev/tty", .terminal),
   ("/dev/random", .zero), ("/dev/urandom", .zero), ("/dev/stdin", .null),
   ("/dev/stdout", .output), ("/dev/stderr", .null), ("/dev/fd/0", .null),
   ("/dev/fd/1", .output), ("/dev/fd/2", .null), ("/proc/self/fd/0", .null),
   ("/proc/self/fd/1", .output), ("/proc/self/fd/2", SpecialFile.null)].map
    fun (name, kind) => (Place.ofName name, .special kind)

def standardDirectories : List String :=
  ["/bin", "/boot", "/dev", "/dev/fd", "/dev/pts", "/dev/shm", "/etc", "/etc/alternatives",
   "/etc/apt", "/etc/cron.d", "/etc/default", "/etc/init.d", "/etc/ld.so.conf.d", "/etc/opt",
   "/etc/pam.d", "/etc/profile.d", "/etc/security", "/etc/skel", "/etc/ssl", "/etc/ssl/certs",
   "/home", "/lib", "/lib64", "/media", "/mnt", "/opt", "/proc", "/proc/1", "/proc/self",
   "/proc/self/fd", "/proc/sys", "/root", "/run", "/run/lock", "/sbin", "/srv", "/sys",
   "/sys/class", "/sys/devices", "/sys/kernel", "/tmp", "/usr", "/usr/bin", "/usr/games",
   "/usr/include", "/usr/lib", "/usr/lib64", "/usr/libexec", "/usr/local", "/usr/local/bin",
   "/usr/local/etc", "/usr/local/include", "/usr/local/lib", "/usr/local/sbin",
   "/usr/local/share", "/usr/local/src", "/usr/sbin", "/usr/share", "/usr/share/doc",
   "/usr/share/man", "/usr/src", "/var", "/var/backups", "/var/cache", "/var/lib",
   "/var/lib/dpkg", "/var/local", "/var/lock", "/var/log", "/var/mail", "/var/opt", "/var/run",
   "/var/spool", "/var/tmp"]

def standardPrograms : List String :=
  ["bash", "cat", "chmod", "cp", "date", "dd", "echo", "env", "false", "grep", "head", "id", "ls",
   "mkdir", "mv", "passwd", "pwd", "rm", "sed", "sh", "sleep", "tail", "tar", "touch", "true",
   "uname", "yes"].flatMap fun name => ["/bin/" ++ name, "/usr/bin/" ++ name]

def programStart : Bytes := [0x7f, 0x45, 0x4c, 0x46, 0x02, 0x01, 0x01, 0x00]

def standardFiles : List (String × Bytes) :=
  [("/etc/passwd", .ofText "root:x:0:0:root:/root:/bin/bash\n"),
   ("/etc/group", .ofText "root:x:0:\n"), ("/etc/shadow", .ofText "root:*:"),
   ("/etc/hosts", .ofText "127.0.0.1\tlocalhost\n"), ("/etc/hostname", .ofText "localhost\n"),
   ("/etc/resolv.conf", .ofText "nameserver 127.0.0.1\n"), ("/etc/fstab", .ofText "# "),
   ("/etc/profile", .ofText "# /etc/profile"), ("/etc/os-release", .ofText "PRETTY_NAME="),
   ("/etc/nsswitch.conf", .ofText "# /etc/nsswitch.conf\n"),
   ("/etc/debian_version", .ofText "12.0\n"), ("/proc/cpuinfo", .ofText "processor\t: 0\n"),
   ("/proc/version", .ofText "Linux version "), ("/proc/meminfo", .ofText "MemTotal:")]

def standardWorkplace : Place := .ofName "/tmp/workplace"

/-- The files of a machine with some files and sockets in the directory that paths are taken
from. -/
def ofEntries (entries : List (String × Bytes)) (sockets : List String) : Files where
  nodes :=
    entries.map (fun (name, contents) => (standardWorkplace.child name, .file contents)) ++
      sockets.map (fun name => (standardWorkplace.child name, .socket)) ++ specialNodes ++
      standardFiles.map (fun (name, contents) => (.ofName name, .file contents)) ++
      standardPrograms.map (fun name => (.ofName name, .file programStart)) ++
      standardDirectories.map (fun name => (.ofName name, .directory))
  workplace := standardWorkplace

def node? (files : Files) (place : Place) : Option Node :=
  if place.isAround files.workplace then some .directory else files.nodes.lookup place

def place (files : Files) (place : Place) (node : Node) : Files :=
  { files with nodes := (place, node) :: files.nodes.filter fun other => other.1 != place }

def put (files : Files) (place : Place) (contents : Bytes) : Files :=
  files.place place (.file contents)

def changesSince (files before : Files) : List (Place × Bytes) :=
  files.nodes.filterMap fun (place, node) =>
    match node with
    | .file contents =>
      if before.nodes.lookup place = some node then none else some (place, contents)
    | _ => none

/-- The files in the directory that paths are taken from that are not what they were before, by
their names there. -/
def changesHereSince (files before : Files) : List (String × Bytes) :=
  (files.changesSince before).filterMap fun (place, contents) =>
    (place.nameFrom? files.workplace).map fun name => (name, contents)

theorem lookup_filter_ne {α β : Type} [DecidableEq α] (entries : List (α × β)) (key other : α)
    (differ : other ≠ key) :
    (entries.filter fun entry => entry.1 != key).lookup other = entries.lookup other := by
  have unlike : (other == key) = false := by simpa using differ
  induction entries with
  | nil => rfl
  | cons entry entries inductionHypothesis =>
    obtain ⟨held, value⟩ := entry
    rw [List.filter_cons, List.lookup_cons]
    by_cases dropped : held = key
    · simp [dropped, unlike, inductionHypothesis]
    · by_cases here : other = held <;>
        simp [dropped, here, List.lookup_cons, inductionHypothesis]

theorem lookup_put (files : Files) (place other : Place) (contents : Bytes) :
    (files.put place contents).nodes.lookup other =
      if other = place then some (.file contents) else files.nodes.lookup other := by
  unfold put Files.place
  rw [List.lookup_cons]
  by_cases same : other = place
  · simp [same]
  · have unlike : (other == place) = false := by simpa using same
    simp [unlike, same, lookup_filter_ne]

theorem node?_put (files : Files) (place other : Place) (contents : Bytes) :
    (files.put place contents).node? other =
      if other.isAround files.workplace then some .directory
      else if other = place then some (.file contents) else files.node? other := by
  have sameWorkplace : (files.put place contents).workplace = files.workplace := rfl
  unfold node?
  rw [sameWorkplace, lookup_put]
  by_cases around : other.isAround files.workplace = true <;> simp [around]

theorem node?_put_self (files : Files) (place : Place) (contents : Bytes)
    (free : files.node? place ≠ some .directory) :
    (files.put place contents).node? place = some (.file contents) := by
  have away : ¬ place.isAround files.workplace = true := by
    intro around
    exact free (by simp [node?, around])
  simp [node?_put, away]

end Files

end TrustedPlatform
