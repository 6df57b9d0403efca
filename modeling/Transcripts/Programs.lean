import Transcripts.Machine.Step
import Transcripts.Shell.Start
import Transcripts.Tool.Columns
import Transcripts.Tool.Concat
import Transcripts.Tool.Count
import Transcripts.Tool.Dump
import Transcripts.Tool.Ends
import Transcripts.Tool.Facts
import Transcripts.Tool.Fill
import Transcripts.Tool.Launch
import Transcripts.Tool.Listing
import Transcripts.Tool.Manage
import Transcripts.Tool.Merge
import Transcripts.Tool.Names
import Transcripts.Tool.Numbers
import Transcripts.Tool.Print
import Transcripts.Tool.Search
import Transcripts.Tool.Sort
import Transcripts.Tool.Translate
import Transcripts.Tool.Truth

/-!
# Programs

The programs that an interpreter finds on its system, by their names.
-/
namespace Transcripts.Programs

/-- The tools, each with the status of a failure. -/
def tools : List (String × Nat × (List Str → Tool Unit)) :=
  [ ("[", 2, Tool.Truth.bracket),
    ("arch", 1, Tool.Facts.arch),
    ("basename", 1, Tool.Names.basename),
    ("cat", 1, Tool.Concat.cat),
    ("chmod", 1, Tool.Manage.chmod),
    ("comm", 1, Tool.Merge.comm),
    ("cp", 1, Tool.Manage.cp),
    ("cut", 1, Tool.Columns.cut),
    ("dir", 2, Tool.Listing.dir),
    ("dirname", 1, Tool.Names.dirname),
    ("echo", 1, Tool.Print.echo),
    ("env", 125, Tool.Launch.env),
    ("expand", 1, Tool.Columns.expand),
    ("expr", 3, Tool.Numbers.expr),
    ("factor", 1, Tool.Numbers.factor),
    ("false", 1, Tool.Truth.refuse),
    ("fmt", 1, Tool.Fill.fmt),
    ("fold", 1, Tool.Columns.fold),
    ("grep", 2, Tool.Search.grep),
    ("groups", 1, Tool.Facts.groups),
    ("head", 1, Tool.Ends.head),
    ("id", 1, Tool.Facts.id),
    ("join", 1, Tool.Merge.join),
    ("link", 1, Tool.Manage.link),
    ("ln", 1, Tool.Manage.ln),
    ("logname", 1, Tool.Facts.logname),
    ("ls", 2, Tool.Listing.ls),
    ("mkdir", 1, Tool.Manage.mkdir),
    ("mkfifo", 1, Tool.Manage.mkfifo),
    ("mv", 1, Tool.Manage.mv),
    ("nice", 125, Tool.Launch.nice),
    ("nohup", 125, Tool.Launch.nohup),
    ("od", 1, Tool.Dump.od),
    ("paste", 1, Tool.Columns.paste),
    ("printenv", 2, Tool.Launch.printenv),
    ("printf", 1, Tool.Print.printf),
    ("pwd", 1, Tool.Names.pwd),
    ("readlink", 1, Tool.Names.readlink),
    ("realpath", 1, Tool.Names.realpath),
    ("rev", 1, Tool.Concat.rev),
    ("rm", 1, Tool.Manage.rm),
    ("rmdir", 1, Tool.Manage.rmdir),
    ("seq", 1, Tool.Numbers.seq),
    ("setsid", 1, Tool.Launch.setsid),
    ("sleep", 1, Tool.Launch.sleep),
    ("sort", 2, Tool.Sort.sort),
    ("stat", 1, Tool.Listing.stat),
    ("stty", 1, Tool.Facts.stty),
    ("tac", 1, Tool.Concat.tac),
    ("tail", 1, Tool.Ends.tail),
    ("tee", 1, Tool.Concat.tee),
    ("test", 2, Tool.Truth.test),
    ("timeout", 125, Tool.Launch.timeout),
    ("touch", 1, Tool.Manage.touch),
    ("tr", 1, Tool.Translate.tr),
    ("true", 1, Tool.Truth.succeed),
    ("truncate", 1, Tool.Manage.truncate),
    ("tsort", 1, Tool.Sort.tsort),
    ("tty", 3, Tool.Facts.tty),
    ("uname", 1, Tool.Facts.uname),
    ("unexpand", 1, Tool.Columns.unexpand),
    ("uniq", 1, Tool.Sort.uniq),
    ("unlink", 1, Tool.Manage.unlink),
    ("wc", 1, Tool.Count.wc),
    ("whoami", 1, Tool.Facts.whoami),
    ("xargs", 1, Tool.Launch.xargs),
    ("yes", 1, Tool.Launch.yes) ]

/-- What each program is. -/
def table : Machine.Programs :=
  [("sh", Shell.Start.process), ("dash", Shell.Start.process)]
    ++ tools.map fun (name, failure, work) => (name, Tool.toProcess failure work)

def names : List String := table.map (·.1)

end Transcripts.Programs
