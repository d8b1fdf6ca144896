import CMakeGrammar.Shell.Run
/-! A small system: an empty directory to work in, the devices, a shell and other programs. -/
namespace CMakeGrammar.FileSystem

def workplace : List String := ["tmp", "work"]

def programPlaces : List (List String) := [["bin"], ["usr", "bin"]]

def rootDirectories : List String :=
  ["bin", "boot", "dev", "etc", "home", "lib", "lib64", "media", "mnt", "opt", "proc", "root",
    "run", "sbin", "srv", "sys", "tmp", "usr", "var"]

def users : String :=
  "root:x:0:0:root:/root:/bin/bash\n" ++
  "daemon:x:1:1:daemon:/usr/sbin:/usr/sbin/nologin\n" ++
  "bin:x:2:2:bin:/bin:/usr/sbin/nologin\n" ++
  "sys:x:3:3:sys:/dev:/usr/sbin/nologin\n" ++
  "sync:x:4:65534:sync:/bin:/bin/sync\n" ++
  "games:x:5:60:games:/usr/games:/usr/sbin/nologin\n" ++
  "man:x:6:12:man:/var/cache/man:/usr/sbin/nologin\n" ++
  "lp:x:7:7:lp:/var/spool/lpd:/usr/sbin/nologin\n" ++
  "mail:x:8:8:mail:/var/mail:/usr/sbin/nologin\n" ++
  "news:x:9:9:news:/var/spool/news:/usr/sbin/nologin\n" ++
  "uucp:x:10:10:uucp:/var/spool/uucp:/usr/sbin/nologin\n" ++
  "proxy:x:13:13:proxy:/bin:/usr/sbin/nologin\n" ++
  "www-data:x:33:33:www-data:/var/www:/usr/sbin/nologin\n" ++
  "backup:x:34:34:backup:/var/backups:/usr/sbin/nologin\n" ++
  "list:x:38:38:Mailing List Manager:/var/list:/usr/sbin/nologin\n" ++
  "irc:x:39:39:ircd:/run/ircd:/usr/sbin/nologin\n" ++
  "_apt:x:42:65534::/nonexistent:/usr/sbin/nologin\n" ++
  "nobody:x:65534:65534:nobody:/nonexistent:/usr/sbin/nologin\n"

def bare : FileSystem where
  entries :=
    let directories :=
      [] :: rootDirectories.map ([·]) ++ [["usr", "bin"], ["usr", "lib"], ["usr", "local"],
        ["usr", "local", "bin"], ["usr", "sbin"], ["usr", "share"], ["var", "tmp"], workplace]
    directories.map (·, Entry.directory) ++
      [(["dev", "null"], .device true), (["dev", "full"], .device false),
        (["etc", "passwd"], .file (Text.Utf8.encode users))]
  current := workplace

def programNames : List String :=
  (Shell.Program.all (.ofDepth 0)).map Prod.fst ++ ["dash", "sh"]

def withPrograms (run : String → Behaviour) : FileSystem :=
  { bare with
    entries := bare.entries ++ programPlaces.flatMap fun place =>
      programNames.map fun name =>
        (place ++ [name], Entry.program (Shell.fileOf name) (run name)) }

/-- What there is for programs that are run by a shell. What they do depends on their files alone.
-/
def inner : FileSystem := withPrograms fun _ _ _ => ⟨true, [], []⟩

def small : FileSystem := withPrograms fun name => Shell.behaviour inner name.toList

end CMakeGrammar.FileSystem
