import KeyJoin.Host.FileTree

/-!
# The standard tree

The tree that programs find: the usual directories, the devices, the files that
name users and groups, and the programs where they are looked for.
-/

namespace KeyJoin

def standardFolders : List String :=
  ["/boot", "/dev", "/dev/fd", "/dev/pts", "/dev/shm", "/etc", "/etc/alternatives", "/home", "/media", "/mnt", "/opt",
    "/proc", "/root", "/run", "/srv", "/sys", "/tmp", "/usr/bin", "/usr/games", "/usr/include",
    "/usr/lib", "/usr/lib64", "/usr/local/bin", "/usr/local/etc", "/usr/local/games",
    "/usr/local/include", "/usr/local/lib", "/usr/local/sbin", "/usr/local/share",
    "/usr/local/src", "/usr/sbin", "/usr/share", "/usr/src", "/var/cache", "/var/lib", "/var/log",
    "/var/spool", "/var/tmp"]

def standardLinks : List (String × String) :=
  [("/bin", "usr/bin"), ("/sbin", "usr/sbin"), ("/lib", "usr/lib"), ("/lib64", "usr/lib64"),
    ("/var/run", "/run"), ("/var/lock", "/run/lock"), ("/dev/ptmx", "pts/ptmx"),
    ("/usr/bin/sh", "dash"), ("/usr/bin/rbash", "bash"), ("/usr/bin/awk", "/etc/alternatives/awk"),
    ("/usr/bin/nawk", "/etc/alternatives/nawk"), ("/usr/bin/which", "/etc/alternatives/which"),
    ("/etc/alternatives/awk", "/usr/bin/mawk"), ("/etc/alternatives/nawk", "/usr/bin/mawk"),
    ("/etc/alternatives/which", "/usr/bin/which.debianutils"), ("/etc/mtab", "/proc/mounts")]

def standardDevices : List (String × Device) :=
  [("/dev/null", .null), ("/dev/zero", .zero), ("/dev/full", .full), ("/dev/random", .random),
    ("/dev/urandom", .random), ("/dev/tty", .terminal), ("/dev/stdin", .ownDescriptor 0),
    ("/dev/stdout", .ownDescriptor 1), ("/dev/stderr", .ownDescriptor 2)] ++
    (List.range 10).map fun n => ("/dev/fd/" ++ toString n, .ownDescriptor n)

def userRows : List String :=
  ["root:x:0:0:root:/root:/bin/bash", "daemon:x:1:1:daemon:/usr/sbin:/usr/sbin/nologin",
    "bin:x:2:2:bin:/bin:/usr/sbin/nologin", "sys:x:3:3:sys:/dev:/usr/sbin/nologin",
    "sync:x:4:65534:sync:/bin:/bin/sync", "games:x:5:60:games:/usr/games:/usr/sbin/nologin",
    "man:x:6:12:man:/var/cache/man:/usr/sbin/nologin", "lp:x:7:7:lp:/var/spool/lpd:/usr/sbin/nologin",
    "mail:x:8:8:mail:/var/mail:/usr/sbin/nologin", "news:x:9:9:news:/var/spool/news:/usr/sbin/nologin",
    "uucp:x:10:10:uucp:/var/spool/uucp:/usr/sbin/nologin", "proxy:x:13:13:proxy:/bin:/usr/sbin/nologin",
    "www-data:x:33:33:www-data:/var/www:/usr/sbin/nologin",
    "backup:x:34:34:backup:/var/backups:/usr/sbin/nologin",
    "list:x:38:38:Mailing List Manager:/var/list:/usr/sbin/nologin",
    "irc:x:39:39:ircd:/run/ircd:/usr/sbin/nologin",
    "_apt:x:42:65534::/nonexistent:/usr/sbin/nologin",
    "nobody:x:65534:65534:nobody:/nonexistent:/usr/sbin/nologin"]

def groupRows : List String :=
  ["root:x:0:", "daemon:x:1:", "bin:x:2:", "sys:x:3:", "adm:x:4:", "tty:x:5:", "disk:x:6:",
    "lp:x:7:", "mail:x:8:", "users:x:100:", "nogroup:x:65534:"]

def standardFiles : List (String × List String) :=
  [("/etc/passwd", userRows), ("/etc/group", groupRows),
    ("/etc/hosts", ["127.0.0.1\tlocalhost"]), ("/etc/hostname", ["localhost"]),
    ("/etc/shells", ["# /etc/shells: valid login shells", "/bin/sh", "/usr/bin/sh", "/bin/bash",
      "/usr/bin/bash", "/bin/rbash", "/usr/bin/rbash", "/bin/dash", "/usr/bin/dash"]),
    ("/etc/os-release", ["ID=linux"])]

/-- The standard tree with programs of the given names. -/
def standardTree (programs : List String) : FileTree :=
  let place := fun (tree : FileTree) (path : String) (node : Node) =>
    tree.putNode [] path.toList node
  let tree := standardFolders.foldl
    (fun tree path => place tree path ⟨.directory [], 0o755, startTime⟩) emptyTree
  let tree := standardLinks.foldl
    (fun tree entry => place tree entry.1 ⟨.link entry.2.toList, 0o777, startTime⟩) tree
  let tree := standardDevices.foldl
    (fun tree entry => place tree entry.1 ⟨.device entry.2, 0o666, startTime⟩) tree
  let tree := standardFiles.foldl
    (fun tree entry =>
      place tree entry.1 ⟨.file (joinLines (entry.2.map String.toList)), 0o644, startTime⟩)
    tree
  let tree := ["/tmp", "/var/tmp", "/dev/shm"].foldl
    (fun tree path =>
      match tree.locate [] true path.toList with
      | .ok (id, _) => tree.modifyNode id fun node => { node with permissions := 0o1777 }
      | .error _ => tree)
    tree
  programs.foldl
    (fun tree name => place tree ("/usr/bin/" ++ name) ⟨.program name, 0o755, startTime⟩) tree

end KeyJoin
