import LimboSim.Model
import LimboSim.Text
import LimboSim.Render
import LimboSim.Stats
import LimboSim.Diff.Loop
import LimboSim.Diff.Match
import LimboSim.Diff.SubPlan
import LimboSim.Diff.Edit
import LimboSim.Diff.RoundTrip
import LimboSim.Diff.Rerun
import LimboSim.Shadow
import LimboSim.Execute
import LimboSim.Fault
import LimboSim.Generate
